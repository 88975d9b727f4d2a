import StuHelper.Relay.Gemini

/-!
# Gemini requests as chat requests

`GeminiToOpenAIRequest` numbers the function calls of every content from 1 on, and gives the
answer of a function the number of calls that came before it in its own content.  The answers
of Gemini are in a later content than the calls, so their numbers never match: the conversion
links the tools only where there is nothing to link.

The stop sequences are cut with `[:4]`, whatever their number is.
-/

namespace StuHelper.Relay

open Lib GeminiContent List

variable {ω : Type}

/-! ## Requests -/

/-- A slice: its elements, and the elements behind them up to its capacity. -/
structure Slice (α : Type) where
  elements : List α
  spare : List α := []
  deriving DecidableEq, Repr

/-- The slice expression `slice[:high]`. -/
def Slice.upTo {α : Type} (high : Nat) (slice : Slice α) : Except String (List α) :=
  if high ≤ (slice.elements ++ slice.spare).length then
    .ok ((slice.elements ++ slice.spare).take high)
  else .error "slice bounds out of range"

/-- `dto.GeminiChatRequest`, as far as the messages and the stop sequences need it. -/
structure GeminiRequest (ω : Type) where
  contents : List (GeminiContent ω)
  /-- The parts of `SystemInstructions`. -/
  systemInstructions : Option (List (GeminiPart ω)) := none
  /-- `GenerationConfig.StopSequences`. -/
  stopSequences : Slice String := ⟨[], []⟩
  deriving DecidableEq, Repr

/-- The messages and the stop sequences of `dto.GeneralOpenAIRequest`. -/
structure OpenAIRequest where
  messages : List Message
  stop : Option (List String)
  deriving DecidableEq, Repr

/-! ## The conversion -/

def convertGeminiRoleToOpenAI (geminiRole : String) : String :=
  if geminiRole = "user" then "user"
  else if geminiRole = "model" then "assistant"
  else if geminiRole = "function" then "function"
  else "user"

def extractTextFromGeminiParts (parts : List (GeminiPart ω)) : String :=
  "\n".intercalate ((parts.map GeminiPart.text).filter (· ≠ ""))

def callId (number : Nat) : String := "call_" ++ String.ofList (Text.itoa number)

/-- The variables of the loop over the parts of a content. -/
structure GeminiPass where
  mediaContents : List MediaContent := []
  toolCalls : List ToolCallRequest := []
  messages : List Message := []
  deriving DecidableEq, Repr

section Conversion

variable (toJSONString : ω → String)

def GeminiPass.part (pass : GeminiPass) (part : GeminiPart ω) : GeminiPass :=
  if part.text ≠ "" then
    { pass with mediaContents := pass.mediaContents ++ [.text part.text ""] }
  else
    match part.inlineData, part.fileData, part.functionCall, part.functionResponse with
    | some (mimeType, data), _, _, _ =>
      { pass with
        mediaContents := pass.mediaContents ++
          [.imageUrl ("data:" ++ mimeType ++ ";base64," ++ data) "auto" mimeType] }
    | none, some (mimeType, fileUri), _, _ =>
      { pass with mediaContents := pass.mediaContents ++ [.imageUrl fileUri "auto" mimeType] }
    | none, none, some call, _ =>
      { pass with
        toolCalls := pass.toolCalls ++
          [⟨callId (pass.toolCalls.length + 1), call.functionName, toJSONString call.arguments⟩] }
    | none, none, none, some response =>
      { pass with
        messages := pass.messages ++
          [{ role := "tool"
             content := some (.string (toJSONString response))
             toolCallId := callId pass.toolCalls.length }] }
    | none, none, none, none => pass

def GeminiPass.message (pass : GeminiPass) (role : String) : Message :=
  if pass.toolCalls ≠ [] then { role := role, toolCalls := some pass.toolCalls }
  else
    match pass.mediaContents with
    | [.text text _] => { role := role, content := some (.string text) }
    | [] => { role := role }
    | mediaContents => { role := role, content := some (.media mediaContents) }

/-- One content; the messages so far come first. -/
def convertContent (messages : List Message) (content : GeminiContent ω) : List Message :=
  let pass := content.parts.foldl (GeminiPass.part toJSONString) { messages := messages }
  let message := pass.message (convertGeminiRoleToOpenAI content.role)
  if message.parseContent ≠ [] ∨ message.parseToolCalls ≠ [] then pass.messages ++ [message]
  else pass.messages

/-- The stop sequences: `StopSequences[:4]` when there are any. -/
def convertStop (stopSequences : Slice String) : Except String (Option (List String)) :=
  if stopSequences.elements ≠ [] then (stopSequences.upTo 4).map some else .ok none

def systemMessages (systemInstructions : Option (List (GeminiPart ω))) : List Message :=
  match systemInstructions with
  | some parts =>
    [{ role := "system", content := some (.string (extractTextFromGeminiParts parts)) }]
  | none => []

/-- `GeminiToOpenAIRequest`, the messages and the stop sequences. -/
def geminiToOpenAIRequest (request : GeminiRequest ω) : Except String OpenAIRequest := do
  let messages := request.contents.foldl (convertContent toJSONString) []
  let stop ← convertStop request.stopSequences
  return { messages := systemMessages request.systemInstructions ++ messages, stop := stop }

end Conversion

/-! ## Links -/

namespace GeminiPart

/-- The function call that the conversion sees in a part. -/
def call? (part : GeminiPart ω) : Option (GeminiFunctionCall ω) :=
  if part.text = "" ∧ part.inlineData = none ∧ part.fileData = none then part.functionCall else none

/-- The answer that the conversion sees in a part. -/
def response? (part : GeminiPart ω) : Option ω :=
  if part.text = "" ∧ part.inlineData = none ∧ part.fileData = none ∧ part.functionCall = none then
    part.functionResponse
  else none

end GeminiPart

/-- A function call is seen in the content. -/
def GeminiContent.hasCall (content : GeminiContent ω) : Bool :=
  content.parts.any fun part => part.call?.isSome

/-- Every answer has an earlier function call that is not answered yet; this many are waiting. -/
def AnswersCalls : Nat → List (GeminiPart ω) → Prop
  | _, [] => True
  | waiting, part :: parts =>
    if part.call?.isSome then AnswersCalls (waiting + 1) parts
    else if part.response?.isSome then 0 < waiting ∧ AnswersCalls (waiting - 1) parts
    else AnswersCalls waiting parts

def allToolCalls (messages : List Message) : List ToolCallRequest :=
  messages.flatMap Message.parseToolCalls

def toolMessages (messages : List Message) : List Message :=
  messages.filter fun message => message.role = "tool"

/-- The messages have the function calls of the contents, with distinct ids; the answers have the
ids of the calls, one after the other, and come after the messages of the assistant with these
calls. -/
structure LinksTools (toJSONString : ω → String) (contents : List (GeminiContent ω))
    (messages : List Message) : Prop where
  calls : (allToolCalls messages).map (fun call => (call.name, call.arguments)) =
    contents.flatMap fun content => (content.parts.filterMap GeminiPart.call?).map
      fun call => (call.functionName, toJSONString call.arguments)
  distinct : ((allToolCalls messages).map ToolCallRequest.id).Nodup
  answers : (toolMessages messages).map Message.toolCallId =
    ((allToolCalls messages).map ToolCallRequest.id).take (toolMessages messages).length
  after : ToolsAfterCalls messages

/-- Nothing is to be linked: no answer of a function, and calls in one content at most. -/
structure NothingToLink (contents : List (GeminiContent ω)) : Prop where
  responses : ∀ content ∈ contents, ∀ part ∈ content.parts, part.response? = none
  calls : (contents.filter hasCall).length ≤ 1

/-! ## Ids -/

theorem callId_injective : Function.Injective callId := by
  intro first second same
  have digits : Nat.toDigits 10 first = Nat.toDigits 10 second := by
    apply String.ofList_injective
    exact String.append_right_inj _ |>.mp same
  have value := Text.digitsValue_toDigits first
  rw [digits, Text.digitsValue_toDigits] at value
  exact (Option.some.inj value).symm

def contentIds (count : Nat) : List String := (range count).map fun number => callId (number + 1)

theorem mem_contentIds {count number : Nat} :
    callId number ∈ contentIds count ↔ 1 ≤ number ∧ number ≤ count := by
  rw [contentIds, mem_map]
  constructor
  · rintro ⟨index, member, same⟩
    cases callId_injective same
    exact ⟨Nat.le_add_left 1 index, mem_range.mp member⟩
  · rintro ⟨positive, bounded⟩
    refine ⟨number - 1, mem_range.mpr (by omega), ?_⟩
    rw [Nat.sub_add_cancel positive]

/-! ## The parts of a content -/

namespace GeminiPass

variable (toJSONString : ω → String)

theorem part_call (pass : GeminiPass) {part : GeminiPart ω} {call : GeminiFunctionCall ω}
    (seen : part.call? = some call) :
    pass.part toJSONString part =
      { pass with
        toolCalls := pass.toolCalls ++
          [⟨callId (pass.toolCalls.length + 1), call.functionName,
            toJSONString call.arguments⟩] } := by
  obtain ⟨text, inlineData, fileData, functionCall, functionResponse⟩ := part
  simp only [GeminiPart.call?, Option.ite_none_right_eq_some] at seen
  obtain ⟨⟨rfl, rfl, rfl⟩, rfl⟩ := seen
  rfl

theorem part_response (pass : GeminiPass) {part : GeminiPart ω} {response : ω}
    (seen : part.response? = some response) :
    pass.part toJSONString part =
      { pass with
        messages := pass.messages ++
          [{ role := "tool"
             content := some (.string (toJSONString response))
             toolCallId := callId pass.toolCalls.length }] } := by
  obtain ⟨text, inlineData, fileData, functionCall, functionResponse⟩ := part
  simp only [GeminiPart.response?, Option.ite_none_right_eq_some] at seen
  obtain ⟨⟨rfl, rfl, rfl, rfl⟩, rfl⟩ := seen
  rfl

theorem part_other (pass : GeminiPass) {part : GeminiPart ω}
    (noCall : part.call? = none) (noResponse : part.response? = none) :
    (pass.part toJSONString part).toolCalls = pass.toolCalls ∧
      (pass.part toJSONString part).messages = pass.messages := by
  rw [GeminiPass.part]
  split
  · exact ⟨rfl, rfl⟩
  split
  · exact ⟨rfl, rfl⟩
  · exact ⟨rfl, rfl⟩
  · simp_all [GeminiPart.call?]
  · simp_all [GeminiPart.response?]
  · exact ⟨rfl, rfl⟩

/-- What the loop knows of the parts it has read, when there were no messages at its start. -/
structure HasRead (parts : List (GeminiPart ω)) (pass : GeminiPass) : Prop where
  calls : pass.toolCalls.map (fun call => (call.name, call.arguments)) =
    (parts.filterMap GeminiPart.call?).map
      fun call => (call.functionName, toJSONString call.arguments)
  ids : pass.toolCalls.map ToolCallRequest.id = contentIds pass.toolCalls.length
  tools : ∀ message ∈ pass.messages, message.role = "tool" ∧ message.toolCalls = none ∧
    ∃ number ≤ pass.toolCalls.length, message.toolCallId = callId number
  responses : pass.messages = [] ↔ ∀ part ∈ parts, part.response? = none

variable {toJSONString}

theorem HasRead.part {parts : List (GeminiPart ω)} {pass : GeminiPass}
    (before : HasRead toJSONString parts pass) (part : GeminiPart ω) :
    HasRead toJSONString (parts ++ [part]) (pass.part toJSONString part) := by
  have all : (∀ other ∈ parts ++ [part], other.response? = none) ↔
      (∀ other ∈ parts, other.response? = none) ∧ part.response? = none := by
    rw [forall_mem_append, forall_mem_singleton]
  cases called : part.call? with
  | some =>
    rw [part_call toJSONString pass called]
    constructor
    · simp [before.calls, called]
    · simp [before.ids, contentIds, range_succ]
    · intro message member
      obtain ⟨role, none, number, bounded, id⟩ := before.tools message member
      refine ⟨role, none, number, ?_, id⟩
      simpa using Nat.le_succ_of_le bounded
    · rw [all, ← before.responses]
      simp only [GeminiPart.call?, Option.ite_none_right_eq_some] at called
      exact (and_iff_left (by simp [GeminiPart.response?, called.2])).symm
  | none =>
    cases answer : part.response? with
    | some =>
      rw [part_response toJSONString pass answer]
      constructor
      · simp [before.calls, called]
      · exact before.ids
      · intro message member
        cases mem_append.mp member with
        | inl earlier => exact before.tools message earlier
        | inr here =>
          cases mem_singleton.mp here
          exact ⟨rfl, rfl, pass.toolCalls.length, Nat.le_refl _, rfl⟩
      · rw [all, answer]
        simp
    | none =>
      obtain ⟨sameCalls, sameMessages⟩ := part_other toJSONString pass called answer
      constructor
      · rw [sameCalls, before.calls]
        simp [called]
      · rw [sameCalls, before.ids]
      · rw [sameCalls, sameMessages]
        exact before.tools
      · rw [sameMessages, all, before.responses]
        exact (and_iff_left answer).symm

theorem HasRead.parts (parts : List (GeminiPart ω)) :
    HasRead toJSONString parts (parts.foldl (GeminiPass.part toJSONString) {}) := by
  induction parts using reverseRecOn with
  | nil => exact ⟨rfl, rfl, nofun, iff_of_true rfl nofun⟩
  | append_singleton parts part ih =>
    rw [foldl_append]
    exact ih.part part

theorem part_messages (front : List Message) (pass : GeminiPass) (part : GeminiPart ω) :
    GeminiPass.part toJSONString { pass with messages := front ++ pass.messages } part =
      { pass.part toJSONString part with
        messages := front ++ (pass.part toJSONString part).messages } := by
  cases called : part.call? with
  | some => rw [part_call toJSONString _ called, part_call toJSONString _ called]
  | none =>
    cases answer : part.response? with
    | some =>
      rw [part_response toJSONString _ answer, part_response toJSONString _ answer,
        append_assoc]
    | none =>
      rw [GeminiPass.part, GeminiPass.part]
      split
      · rfl
      split
      · rfl
      · rfl
      · rfl
      · rw [append_assoc]
      · rfl

end GeminiPass

/-! ## The messages of a content -/

section Messages

variable (toJSONString : ω → String)

namespace GeminiContent

/-- What the loop over the parts leaves. -/
def pass (content : GeminiContent ω) : GeminiPass :=
  content.parts.foldl (GeminiPass.part toJSONString) {}

/-- The number of calls that a content holds. -/
def callCount (content : GeminiContent ω) : Nat := (content.pass toJSONString).toolCalls.length

def ownMessages (content : GeminiContent ω) : List Message :=
  let message := (content.pass toJSONString).message (convertGeminiRoleToOpenAI content.role)
  if message.parseContent ≠ [] ∨ message.parseToolCalls ≠ [] then [message] else []

def messages (content : GeminiContent ω) : List Message :=
  (content.pass toJSONString).messages ++ content.ownMessages toJSONString

theorem convertContent_eq (front : List Message) (content : GeminiContent ω) :
    convertContent toJSONString front content = front ++ content.messages toJSONString := by
  have shifted : content.parts.foldl (GeminiPass.part toJSONString) { messages := front } =
      { content.pass toJSONString with
        messages := front ++ (content.pass toJSONString).messages } := by
    have := @foldl_hom _ _ _
      (fun pass : GeminiPass => { pass with messages := front ++ pass.messages }) _ _
      content.parts {} (@GeminiPass.part_messages _ toJSONString front)
    rwa [append_nil] at this
  have same : GeminiPass.message { content.pass toJSONString with
      messages := front ++ (content.pass toJSONString).messages } =
        (content.pass toJSONString).message := rfl
  rw [convertContent, shifted, same, messages, ownMessages]
  split
  · rw [append_assoc]
  · rw [append_nil]

theorem message_toolCalls (pass : GeminiPass) (role : String) :
    (pass.message role).parseToolCalls = pass.toolCalls := by
  rw [GeminiPass.message]
  split
  · rfl
  rename_i none
  rw [not_ne_iff] at none
  split
  · exact none.symm
  · exact none.symm
  · exact none.symm

theorem message_role (pass : GeminiPass) (role : String) : (pass.message role).role = role := by
  rw [GeminiPass.message]
  split
  · rfl
  · split
    · rfl
    · rfl
    · rfl

theorem convertGeminiRoleToOpenAI_ne_tool (role : String) :
    convertGeminiRoleToOpenAI role ≠ "tool" := by
  rw [convertGeminiRoleToOpenAI]
  split
  · decide
  split
  · decide
  · split
    · decide
    · decide

variable (content : GeminiContent ω)

theorem hasRead : GeminiPass.HasRead toJSONString content.parts (content.pass toJSONString) :=
  GeminiPass.HasRead.parts content.parts

theorem allToolCalls_messages :
    allToolCalls (content.messages toJSONString) = (content.pass toJSONString).toolCalls := by
  have tools : allToolCalls (content.pass toJSONString).messages = [] := by
    rw [allToolCalls, flatMap_eq_nil_iff]
    intro message member
    rw [Message.parseToolCalls, ((content.hasRead toJSONString).tools message member).2.1]
    rfl
  have own : allToolCalls (content.ownMessages toJSONString) =
      (content.pass toJSONString).toolCalls := by
    rw [ownMessages]
    split
    · rw [allToolCalls, flatMap_singleton, message_toolCalls]
    · rename_i empty
      rw [not_or, not_ne_iff, not_ne_iff, message_toolCalls] at empty
      exact empty.2.symm
  rw [messages, allToolCalls, flatMap_append]
  change allToolCalls _ ++ allToolCalls _ = _
  rw [tools, own, nil_append]

theorem toolMessages_messages :
    toolMessages (content.messages toJSONString) = (content.pass toJSONString).messages := by
  have tools : toolMessages (content.pass toJSONString).messages =
      (content.pass toJSONString).messages := by
    rw [toolMessages, filter_eq_self]
    intro message member
    exact decide_eq_true ((content.hasRead toJSONString).tools message member).1
  have own : toolMessages (content.ownMessages toJSONString) = [] := by
    rw [toolMessages, filter_eq_nil_iff, ownMessages]
    intro message member
    rw [mem_ite_nil_right] at member
    cases mem_singleton.mp member.2
    simpa [message_role] using convertGeminiRoleToOpenAI_ne_tool content.role
  rw [messages, toolMessages, filter_append]
  change toolMessages _ ++ toolMessages _ = _
  rw [tools, own, append_nil]

theorem callCount_pos_iff : 0 < content.callCount toJSONString ↔ content.hasCall = true := by
  have counted : content.callCount toJSONString =
      (content.parts.filterMap GeminiPart.call?).length := by
    have := congrArg List.length (content.hasRead toJSONString).calls
    rwa [length_map, length_map] at this
  rw [counted, length_pos_iff, Ne, filterMap_eq_nil_iff, hasCall, any_eq_true]
  simp [Option.isSome_iff_ne_none]

end GeminiContent

/-! ## The messages of a request -/

theorem heldIds_subset (messages : List Message) :
    messages.flatMap Message.heldIds ⊆ (allToolCalls messages).map ToolCallRequest.id := by
  intro id held
  obtain ⟨message, member, inMessage⟩ := mem_flatMap.mp held
  rw [Message.heldIds, mem_ite_nil_right] at inMessage
  obtain ⟨_, called, rfl⟩ := mem_map.mp inMessage.2
  exact mem_map_of_mem (mem_flatMap.mpr ⟨message, member, called⟩)

def contentMessages (contents : List (GeminiContent ω)) : List Message :=
  contents.flatMap (GeminiContent.messages toJSONString)

variable (contents : List (GeminiContent ω))

theorem allToolCalls_contents :
    allToolCalls (contentMessages toJSONString contents) =
      contents.flatMap fun content => (content.pass toJSONString).toolCalls := by
  rw [allToolCalls, contentMessages, flatMap_assoc]
  exact congrArg contents.flatMap (funext (allToolCalls_messages toJSONString))

theorem ids_contents :
    (allToolCalls (contentMessages toJSONString contents)).map ToolCallRequest.id =
      contents.flatMap fun content => contentIds (content.callCount toJSONString) := by
  rw [allToolCalls_contents, map_flatMap]
  exact congrArg contents.flatMap (funext fun content => (content.hasRead toJSONString).ids)

/-- Two contents with calls share the first id. -/
theorem distinct_iff :
    (contents.flatMap fun content => contentIds (content.callCount toJSONString)).Nodup ↔
      (contents.filter hasCall).length ≤ 1 := by
  have first : ∀ content : GeminiContent ω, content.hasCall = true →
        callId 1 ∈ contentIds (content.callCount toJSONString) := by
    intro content called
    exact mem_contentIds.mpr ⟨Nat.le_refl 1, (content.callCount_pos_iff toJSONString).mpr called⟩
  constructor
  · intro distinct
    have disjoint := (nodup_flatMap.mp distinct).2.filter hasCall
    have called : ∀ content ∈ contents.filter hasCall, content.hasCall = true :=
      fun _ member => of_mem_filter member
    cases filtered : contents.filter hasCall with
    | nil => exact Nat.zero_le 1
    | cons content others =>
      rw [filtered] at disjoint called
      cases others with
      | nil => exact Nat.le_refl 1
      | cons other =>
        have apart := rel_of_pairwise_cons disjoint mem_cons_self
        exact absurd (first other (called other (mem_cons_of_mem _ mem_cons_self)))
          (apart (first content (called content mem_cons_self)))
  · intro few
    induction contents with
    | nil => exact nodup_nil
    | cons content contents ih =>
      rw [flatMap_cons]
      cases called : content.hasCall with
      | true =>
        rw [filter_cons_of_pos called, length_cons] at few
        have alone := Nat.le_zero.mp (Nat.le_of_succ_le_succ few)
        rw [length_eq_zero_iff, filter_eq_nil_iff] at alone
        have rest : (contents.flatMap fun content =>
            contentIds (content.callCount toJSONString)) = [] := by
          rw [flatMap_eq_nil_iff]
          intro other member
          have none := mt (other.callCount_pos_iff toJSONString).mp (alone other member)
          rw [Nat.eq_zero_of_not_pos none]
          rfl
        rw [rest, append_nil]
        exact nodup_range.map fun first second same => Nat.succ.inj (callId_injective same)
      | false =>
        rw [filter_cons_of_neg (by simp [called])] at few
        have none := mt (content.callCount_pos_iff toJSONString).mp (by simp [called])
        rw [Nat.eq_zero_of_not_pos none]
        exact ih few

section System

variable {toJSONString} {system : List Message} {contents : List (GeminiContent ω)}
  (quiet : ∀ message ∈ system, message.role = "system" ∧ message.toolCalls = none)

include quiet

theorem allToolCalls_system (messages : List Message) :
    allToolCalls (system ++ messages) = allToolCalls messages := by
  have none : system.flatMap Message.parseToolCalls = [] := by
    rw [flatMap_eq_nil_iff]
    intro message member
    rw [Message.parseToolCalls, (quiet message member).2]
    rfl
  rw [allToolCalls, flatMap_append, none]
  rfl

theorem toolMessages_system (messages : List Message) :
    toolMessages (system ++ messages) = toolMessages messages := by
  have none : toolMessages system = [] := by
    rw [toolMessages, filter_eq_nil_iff]
    intro message member
    rw [(quiet message member).1]
    decide
  rw [toolMessages, filter_append]
  change toolMessages system ++ _ = _
  rw [none]
  rfl

/-- The first answer of a content has an id that only calls of its own content may have, and they
come later. -/
theorem LinksTools.no_response
    (links : LinksTools toJSONString contents (system ++ contentMessages toJSONString contents)) :
    ∀ content ∈ contents, (content.pass toJSONString).messages = [] := by
  intro content member
  obtain ⟨before, after, rfl⟩ := append_of_mem member
  cases answers : (content.pass toJSONString).messages with
  | nil => rfl
  | cons tool rest =>
    obtain ⟨role, -, number, bounded, id⟩ := (content.hasRead toJSONString).tools tool
      (by rw [answers]; exact mem_cons_self)
    have held := links.after (system ++ contentMessages toJSONString before) tool
      (rest ++ (content.ownMessages toJSONString ++ contentMessages toJSONString after))
      (by simp [contentMessages, messages, answers]) role
    have earlier := heldIds_subset _ held
    rw [allToolCalls_system quiet, ids_contents, id] at earlier
    obtain ⟨_, _, issued⟩ := mem_flatMap.mp earlier
    have here : callId number ∈ contentIds (content.callCount toJSONString) :=
      mem_contentIds.mpr ⟨(mem_contentIds.mp issued).1, bounded⟩
    have distinct := links.distinct
    rw [allToolCalls_system quiet, ids_contents, flatMap_append, flatMap_cons] at distinct
    have apart := disjoint_of_nodup_append distinct
    exact absurd (mem_append_left _ here) (apart earlier)

theorem linksTools_iff :
    LinksTools toJSONString contents (system ++ contentMessages toJSONString contents) ↔
      NothingToLink contents := by
  constructor
  · intro links
    constructor
    · intro content member
      exact (content.hasRead toJSONString).responses.mp (links.no_response quiet content member)
    · have distinct := links.distinct
      rw [allToolCalls_system quiet, ids_contents] at distinct
      exact (distinct_iff toJSONString contents).mp distinct
  · intro nothing
    have none : toolMessages (contentMessages toJSONString contents) = [] := by
      rw [toolMessages, contentMessages, filter_flatMap, flatMap_eq_nil_iff]
      intro content member
      have silent := nothing.responses content member
      rw [← (content.hasRead toJSONString).responses, ← toolMessages_messages] at silent
      exact silent
    rw [← toolMessages_system quiet] at none
    constructor
    · rw [allToolCalls_system quiet, allToolCalls_contents, map_flatMap]
      exact congrArg contents.flatMap (funext fun content => (content.hasRead toJSONString).calls)
    · rw [allToolCalls_system quiet, ids_contents]
      exact (distinct_iff toJSONString contents).mpr nothing.calls
    · rw [none]
      rfl
    · intro before tool after split isTool
      rw [toolMessages, filter_eq_nil_iff, split] at none
      exact absurd (decide_eq_true isTool) (none tool (by simp))

end System

end Messages

/-! ## Stop sequences -/

theorem stop_iff (slice : Slice String) :
    (∃ stop, convertStop slice = .ok stop ∧ stop.getD [] = slice.elements.take 4) ↔
      slice.elements = [] ∨ 4 ≤ slice.elements.length := by
  rw [convertStop]
  by_cases empty : slice.elements = []
  · exact iff_of_true ⟨none, by simp [empty], by simp [empty]⟩ (Or.inl empty)
  rw [if_pos empty, Slice.upTo]
  constructor
  · rintro ⟨stop, cut, same⟩
    split at cut
    · rename_i fits
      cases cut
      have lengths := congrArg length same
      rw [Option.getD_some, length_take, length_take, Nat.min_eq_left fits] at lengths
      exact Or.inr (Nat.le_trans (Nat.le_of_eq lengths) (Nat.min_le_right _ _))
    · cases cut
  · intro long
    have long := long.resolve_left empty
    have fits : 4 ≤ (slice.elements ++ slice.spare).length := by
      rw [length_append]
      exact Nat.le_add_right_of_le long
    refine ⟨some (slice.elements.take 4), ?_, rfl⟩
    rw [if_pos fits, take_append_of_le_length long]
    rfl

/-! ## The main result -/

/-- The conversion succeeds, links the tools and keeps the first four stop sequences. -/
def ConvertsWell (toJSONString : ω → String) (request : GeminiRequest ω) : Prop :=
  ∃ converted, geminiToOpenAIRequest toJSONString request = .ok converted ∧
    LinksTools toJSONString request.contents converted.messages ∧
      converted.stop.getD [] = request.stopSequences.elements.take 4

/-- The conversion succeeds, links the tools and keeps the first four stop sequences exactly where
there is nothing to link, and no stop sequence or at least four. -/
theorem gemini_links_iff (toJSONString : ω → String) (request : GeminiRequest ω) :
    ConvertsWell toJSONString request ↔ NothingToLink request.contents ∧
        (request.stopSequences.elements = [] ∨ 4 ≤ request.stopSequences.elements.length) := by
  have quiet : ∀ message ∈ systemMessages request.systemInstructions,
      message.role = "system" ∧ message.toolCalls = none := by
    cases request.systemInstructions with
    | none => exact nofun
    | some => exact forall_mem_singleton.mpr ⟨rfl, rfl⟩
  rw [ConvertsWell, geminiToOpenAIRequest, funext₂ (convertContent_eq toJSONString),
    foldl_append_eq_append, nil_append, ← stop_iff]
  rw [← linksTools_iff quiet, contentMessages]
  cases convertStop request.stopSequences with
  | error =>
    constructor
    · rintro ⟨converted, succeeds, -⟩
      cases succeeds
    · rintro ⟨-, stop, succeeds, -⟩
      cases succeeds
  | ok stop =>
    constructor
    · rintro ⟨converted, succeeds, links, kept⟩
      cases succeeds
      exact ⟨links, stop, rfl, kept⟩
    · rintro ⟨links, stop, succeeds, kept⟩
      cases succeeds
      exact ⟨_, rfl, links, kept⟩

/-- A call of the model and the answer in the next content. -/
def weatherContents : List (GeminiContent String) :=
  [{ role := "user", parts := [{ text := "weather?" }] },
   { role := "model", parts := [{ functionCall := some ⟨"weather", "\x7b\x7d"⟩ }] },
   { role := "user", parts := [{ functionResponse := some "sunny" }] }]

/-- The answer gets the id `call_0`, which no call has; and a single stop sequence is cut out of
its slice at 4. -/
theorem gemini_not_linked :
    AnswersCalls 0 (weatherContents.flatMap parts) ∧
      ¬ConvertsWell (fun text => text) { contents := weatherContents } ∧
      geminiToOpenAIRequest (fun text => text)
        { contents := weatherContents.take 1, stopSequences := ⟨["END"], []⟩ } =
          .error "slice bounds out of range" := by
  refine ⟨?_, ?_, rfl⟩
  · simp [weatherContents, AnswersCalls, GeminiPart.call?, GeminiPart.response?]
  · rintro ⟨converted, succeeds, links, -⟩
    cases succeeds
    have after := (toolsAfterCalls_iff _).mp links.after
    revert after
    decide +kernel

end StuHelper.Relay
