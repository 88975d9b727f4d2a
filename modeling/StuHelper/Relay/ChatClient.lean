import StuHelper.Lib.Upsert
import StuHelper.Relay.Claude
import StuHelper.Relay.Message

/-!
# A client of chat completion chunks

A client joins the pieces of the text, collects the fragments of the tool calls by their
index, and keeps the last finish reason.  What it ends up with can be compared with the
message of a response that was not streamed.
-/

namespace StuHelper.Relay

open Lib

/-- The message of a chat completion, as far as the streamed and the whole one are compared. -/
structure ChatMessage where
  content : String
  toolCalls : List ToolCallRequest
  finishReason : Option String
  deriving DecidableEq, Repr

/-- What a client has read; the tool calls stand with their index. -/
structure ChatReader where
  content : String := ""
  toolCalls : List (Int × ToolCallRequest) := []
  finishReason : Option String := none
  deriving DecidableEq, Repr

/-- A tool call with one more fragment: the first id and the first name count, the arguments are
joined. -/
def ToolCallRequest.extend (fragment : ToolCallResponse) (call : ToolCallRequest) :
    ToolCallRequest :=
  { id := if call.id = "" then fragment.id else call.id
    name := if call.name = "" then fragment.name else call.name
    arguments := call.arguments ++ fragment.arguments }

/-- Read a fragment of a tool call; without an index it belongs to the first one. -/
def readFragment (calls : List (Int × ToolCallRequest)) (fragment : ToolCallResponse) :
    List (Int × ToolCallRequest) :=
  let index := fragment.index.getD 0
  upsert (fun entry => entry.1 = index)
    (index, ⟨fragment.id, fragment.name, fragment.arguments⟩)
    (fun entry => (entry.1, entry.2.extend fragment)) calls

def ChatReader.read (reader : ChatReader) (response : StreamResponse) : ChatReader :=
  match response.choices.head? with
  | none => reader
  | some choice =>
    { content := reader.content ++ choice.delta.getContentString
      toolCalls := choice.delta.toolCalls.foldl readFragment reader.toolCalls
      finishReason := choice.finishReason.or reader.finishReason }

/-- The message that has been read. -/
def ChatReader.message (reader : ChatReader) : ChatMessage :=
  { content := reader.content
    toolCalls := reader.toolCalls.map Prod.snd
    finishReason := reader.finishReason }

def assembled (chunks : List StreamResponse) : ChatMessage :=
  (chunks.foldl ChatReader.read {}).message

end StuHelper.Relay
