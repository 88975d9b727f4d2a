import Mathlib.Data.List.Basic

/-!
# Messages of a chat request

The messages of an OpenAI request, as the conversions between the request formats build and
read them, and what links the answers of tools to the calls.
-/

namespace StuHelper.Relay

open List

/-! ## Messages -/

/-- `dto.MediaContent`: a part of a message. -/
inductive MediaContent where
  | text (text : String) (cacheControl : String)
  | imageUrl (url detail mimeType : String)
  | inputAudio (data format : String)
  | file (fileName fileData fileId : String)
  | videoUrl (url : String)
  deriving DecidableEq, Repr

inductive Content where
  | string (text : String)
  | media (parts : List MediaContent)
  deriving DecidableEq, Repr

/-- `dto.ToolCallRequest` of a function. -/
structure ToolCallRequest where
  id : String := ""
  /-- `Function.Name`. -/
  name : String := ""
  /-- `Function.Arguments`. -/
  arguments : String := ""
  deriving DecidableEq, Repr

/-- `dto.Message`. -/
structure Message where
  role : String
  content : Option Content := none
  name : Option String := none
  /-- The decoded tool calls; `none` when the field is nil. -/
  toolCalls : Option (List ToolCallRequest) := none
  toolCallId : String := ""
  deriving DecidableEq, Repr

namespace Message

def isStringContent (message : Message) : Bool :=
  match message.content with
  | some (.string _) => true
  | _ => false

def stringContent (message : Message) : String :=
  match message.content with
  | some (.string text) => text
  | some (.media parts) => String.join (parts.filterMap fun
      | .text text _ => some text
      | _ => none)
  | none => ""

def parseContent (message : Message) : List MediaContent :=
  match message.content with
  | some (.string text) => [.text text ""]
  | some (.media parts) => parts
  | none => []

def parseToolCalls (message : Message) : List ToolCallRequest := message.toolCalls.getD []

def heldIds (message : Message) : List String :=
  if message.role = "assistant" then message.parseToolCalls.map ToolCallRequest.id else []

end Message

/-! ## Tools -/

/-- Every tool message comes after an assistant message that holds its tool call. -/
def ToolsAfterCalls (messages : List Message) : Prop :=
  ∀ before tool after, messages = before ++ tool :: after → tool.role = "tool" →
    tool.toolCallId ∈ before.flatMap Message.heldIds

/-- The same, read from the front with the tool calls that are known. -/
def linked : List String → List Message → Prop
  | _, [] => True
  | known, message :: messages =>
    (message.role = "tool" → message.toolCallId ∈ known) ∧
      linked (known ++ message.heldIds) messages

theorem linked_iff (known : List String) (messages : List Message) :
    linked known messages ↔
      ∀ before tool after, messages = before ++ tool :: after → tool.role = "tool" →
        tool.toolCallId ∈ known ++ before.flatMap Message.heldIds := by
  induction messages generalizing known with
  | nil =>
    refine iff_of_true trivial fun before tool after split => ?_
    simp at split
  | cons message messages ih =>
    rw [linked, ih]
    constructor
    · rintro ⟨here, later⟩ before tool after split isTool
      cases before with
      | nil =>
        obtain ⟨rfl, -⟩ := List.cons.inj split
        simpa using here isTool
      | cons first before =>
        obtain ⟨rfl, rest⟩ := List.cons.inj split
        have found := later before tool after rest isTool
        rwa [flatMap_cons, ← append_assoc]
    · intro all
      constructor
      · intro isTool
        simpa using all [] message messages rfl isTool
      · intro before tool after split isTool
        have found := all (message :: before) tool after (congrArg _ split) isTool
        rwa [flatMap_cons, ← append_assoc] at found

theorem toolsAfterCalls_iff (messages : List Message) :
    ToolsAfterCalls messages ↔ linked [] messages := (linked_iff [] messages).symm

instance decidableLinked : (known : List String) → (messages : List Message) →
    Decidable (linked known messages)
  | _, [] => isTrue trivial
  | known, message :: messages =>
    have := decidableLinked (known ++ message.heldIds) messages
    inferInstanceAs (Decidable (_ ∧ _))

instance (messages : List Message) : Decidable (ToolsAfterCalls messages) :=
  decidable_of_iff _ (toolsAfterCalls_iff messages).symm

theorem linked_append (known : List String) (front back : List Message) :
    linked known (front ++ back) ↔
      linked known front ∧ linked (known ++ front.flatMap Message.heldIds) back := by
  induction front generalizing known with
  | nil => simp [linked]
  | cons message front ih =>
    rw [cons_append, linked, linked, ih, flatMap_cons, append_assoc, and_assoc]

theorem linked_tools {messages : List Message}
    (tools : ∀ message ∈ messages, message.role = "tool") (known : List String) :
    linked known messages ↔ ∀ message ∈ messages, message.toolCallId ∈ known := by
  induction messages with
  | nil => exact iff_of_true trivial nofun
  | cons message messages ih =>
    obtain ⟨here, later⟩ := forall_mem_cons.mp tools
    have held : message.heldIds = [] := by
      rw [Message.heldIds, here]
      rfl
    rw [linked, held, append_nil, ih later, forall_mem_cons]
    exact and_congr_left fun _ => ⟨fun known => known here, fun known _ => known⟩

end StuHelper.Relay
