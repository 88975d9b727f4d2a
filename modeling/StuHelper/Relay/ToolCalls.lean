import Mathlib.Data.List.Count

/-!
# Calls of built-in tools

A Responses request is billed for the calls of its built-in tools.  The table of the counts has
an entry for every tool type that the request declares.  For a whole answer the tool list of
the answer is counted, for a stream the finished items that are web searches.
-/

namespace StuHelper.Relay

open List

/-- `ResponsesUsageInfo.BuiltInTools`: the `CallCount` of a tool type that has an entry. -/
abbrev BuiltInTools := String → Option Nat

/-- An answer: the types of its `Tools` and of its `Output`. -/
structure ToolAnswer where
  tools : List String
  output : List String

structure ToolEvent where
  type : String
  item : Option String := none

/-- The table of `GenRelayInfoResponses`. -/
def genRelayInfoResponses (tools : List String) : BuiltInTools :=
  tools.foldl (fun builtInTools toolType => Function.update builtInTools toolType (some 0))
    fun _ => none

namespace BuiltInTools

/-- `CallCount++` for a type that has an entry. -/
def call (builtInTools : BuiltInTools) (toolType : String) : BuiltInTools :=
  match builtInTools toolType with
  | none => builtInTools
  | some callCount => Function.update builtInTools toolType (some (callCount + 1))

/-- The count that the surcharge is computed from. -/
def callCount (builtInTools : BuiltInTools) (toolType : String) : Nat :=
  (builtInTools toolType).getD 0

def Billed (builtInTools : BuiltInTools) (output : List String) : Prop :=
  builtInTools.callCount "web_search_preview" = output.count "web_search_call" ∧
    builtInTools.callCount "file_search" = output.count "file_search_call"

end BuiltInTools

/-- The counts after `OaiResponsesHandler`. -/
def oaiResponsesHandler (builtInTools : BuiltInTools) (answer : ToolAnswer) : BuiltInTools :=
  answer.tools.foldl BuiltInTools.call builtInTools

def ToolEvent.done (event : ToolEvent) : Option String :=
  if event.type = "response.output_item.done" then event.item else none

/-- One event in `OaiResponsesStreamHandler`. -/
def countEvent (builtInTools : BuiltInTools) (event : ToolEvent) : BuiltInTools :=
  if event.done = some "web_search_call" then builtInTools.call "web_search_preview"
  else builtInTools

/-- The counts after `OaiResponsesStreamHandler`. -/
def oaiResponsesStreamHandler (builtInTools : BuiltInTools) (events : List ToolEvent) :
    BuiltInTools :=
  events.foldl countEvent builtInTools

/-! ## What is counted -/

theorem genRelayInfoResponses_apply (tools : List String) (toolType : String) :
    genRelayInfoResponses tools toolType = if toolType ∈ tools then some 0 else none := by
  have step : ∀ start : BuiltInTools, tools.foldl (fun builtInTools declared =>
        Function.update builtInTools declared (some 0)) start toolType =
      if toolType ∈ tools then some 0 else start toolType := by
    induction tools with
    | nil => exact fun _ => rfl
    | cons declared tools ih =>
      intro start
      rw [foldl_cons, ih, Function.update_apply]
      by_cases same : toolType = declared
      · simp [same]
      · simp [same]
  exact step _

theorem foldl_call (calls : List String) (builtInTools : BuiltInTools) (toolType : String) :
    calls.foldl BuiltInTools.call builtInTools toolType =
      (builtInTools toolType).map (· + calls.count toolType) := by
  induction calls generalizing builtInTools with
  | nil => simp
  | cons called calls ih =>
    rw [foldl_cons, ih, BuiltInTools.call, count_cons]
    by_cases same : called = toolType
    · subst same
      cases entry : builtInTools called with
      | none => simp [entry]
      | some => simp [Nat.add_right_comm, Nat.add_assoc]
    · cases entry : builtInTools called with
      | none => simp [same]
      | some => simp [same, Function.update_of_ne (Ne.symm same)]

theorem foldl_countEvent (events : List ToolEvent) (builtInTools : BuiltInTools) :
    events.foldl countEvent builtInTools =
      (List.replicate ((events.filterMap ToolEvent.done).count "web_search_call")
        "web_search_preview").foldl BuiltInTools.call builtInTools := by
  induction events generalizing builtInTools with
  | nil => rfl
  | cons event events ih =>
    rw [foldl_cons, ih, countEvent]
    cases done : event.done with
    | none => simp [filterMap_cons_none done]
    | some item =>
      rw [filterMap_cons_some done, count_cons]
      by_cases search : item = "web_search_call"
      · simp [search, replicate_succ]
      · simp [search]

/-- A whole answer is billed right exactly when its tool list has a declared tool as often as the
output has its calls; a stream, when web searches are declared as previews or not made, and no
file search is made. -/
theorem tool_calls_billed_iff (declared : List String) (answer : ToolAnswer)
    {events : List ToolEvent} (streams : events.filterMap ToolEvent.done = answer.output) :
    ((oaiResponsesHandler (genRelayInfoResponses declared) answer).Billed answer.output ↔
      (if "web_search_preview" ∈ declared then answer.tools.count "web_search_preview" else 0) =
          answer.output.count "web_search_call" ∧
        (if "file_search" ∈ declared then answer.tools.count "file_search" else 0) =
          answer.output.count "file_search_call") ∧
    ((oaiResponsesStreamHandler (genRelayInfoResponses declared) events).Billed answer.output ↔
      ("web_search_preview" ∈ declared ∨ "web_search_call" ∉ answer.output) ∧
        "file_search_call" ∉ answer.output) := by
  have counted : ∀ (calls : List String) (toolType : String),
      BuiltInTools.callCount (calls.foldl BuiltInTools.call (genRelayInfoResponses declared))
        toolType = if toolType ∈ declared then calls.count toolType else 0 := by
    intro calls toolType
    rw [BuiltInTools.callCount, foldl_call, genRelayInfoResponses_apply]
    split
    · simp
    · rfl
  constructor
  · rw [BuiltInTools.Billed, oaiResponsesHandler, counted, counted]
  · have other : ("web_search_preview" == "file_search") = false := by decide
    rw [BuiltInTools.Billed, oaiResponsesStreamHandler, foldl_countEvent, streams, counted,
      counted, count_replicate_self, count_replicate, other]
    by_cases preview : "web_search_preview" ∈ declared
    · simp [preview, eq_comm (a := 0), count_eq_zero]
    · simp [preview, eq_comm (a := 0), count_eq_zero]

def oneSearch : List ToolEvent :=
  [⟨"response.output_item.done", some "web_search_call"⟩, ⟨"response.completed", none⟩]

theorem tool_calls_billed_oneSearch :
    let answer : ToolAnswer := ⟨["web_search_preview"], ["web_search_call"]⟩
    (oaiResponsesHandler (genRelayInfoResponses ["web_search_preview"]) answer).Billed
        answer.output ∧
      (oaiResponsesStreamHandler (genRelayInfoResponses ["web_search_preview"]) oneSearch).Billed
        answer.output :=
  have both := @tool_calls_billed_iff ["web_search_preview"]
    ⟨["web_search_preview"], ["web_search_call"]⟩ oneSearch rfl
  ⟨both.1.mpr (by decide), both.2.mpr (by decide)⟩

/-- A file search and two web searches: a whole answer is billed for one of each, its stream for
the web searches only. -/
theorem tool_calls_misbilled :
    let declared := ["web_search_preview", "file_search"]
    let output := ["web_search_call", "web_search_call", "file_search_call"]
    let events := output.map fun item => ToolEvent.mk "response.output_item.done" (some item)
    let whole := oaiResponsesHandler (genRelayInfoResponses declared) ⟨declared, output⟩
    let streamed := oaiResponsesStreamHandler (genRelayInfoResponses declared) events
    events.filterMap ToolEvent.done = output ∧
      whole.callCount "web_search_preview" = 1 ∧ whole.callCount "file_search" = 1 ∧
      streamed.callCount "web_search_preview" = 2 ∧ streamed.callCount "file_search" = 0 := by
  decide

end StuHelper.Relay
