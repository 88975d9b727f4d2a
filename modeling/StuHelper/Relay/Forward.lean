import StuHelper.Lib.Text
import StuHelper.Relay.Claude

/-!
# Chat completion chunks for a client of the same format

`OaiStreamHandler` sends the chunks of an upstream on as they are, one chunk late: the last one
may hold the usage, and a client that did not ask for it must not see it.  Whether the last
chunk is sent is decided in `handleLastResponse`, by the text it carries.

A chunk is the data of its event.  How the data is decoded is a parameter.
-/

namespace StuHelper.Relay

open Lib List

variable {ε : Type}

/-! ## Data -/

/-- What the decoder reads off the data of an event. -/
structure StreamCodec (ε : Type) where
  /-- The data as a `dto.ChatCompletionsStreamResponse`. -/
  unmarshal : String → Option StreamResponse
  /-- The texts of the choices of the data as a `dto.CompletionsStreamResponse`. -/
  unmarshalTexts : String → Option (List String)
  /-- The field `usage` of the data, if there is one. -/
  unmarshalUsage : String → Option Usage
  /-- The fields `type` and `error` of the data. -/
  payload : String → Option (String × Option ε)

inductive StreamError (ε : Type) where
  /-- `dto.GetOpenAIError` of a field `error`. -/
  | reported (error : ε)
  /-- An event whose type is that of an error. -/
  | event (payloadType : String)
  deriving DecidableEq, Repr

def openAIStreamError (codec : StreamCodec ε) (data : String) : Option (StreamError ε) :=
  if Text.trimSpace data = "" then none
  else
    match codec.payload data with
    | none => none
    | some (_, some error) => some (.reported error)
    | some (type, none) =>
      let payloadType := String.ofList ((Text.trimSpace type).toList.map toLowerChar)
      if payloadType = "error" ∨ payloadType = "upstream_error" then some (.event payloadType)
      else none

/-- `relayconstant.RelayModeChatCompletions` and the others. -/
inductive RelayMode where
  | chatCompletions
  | completions
  | other
  deriving DecidableEq, Repr

structure ThinkingContentInfo where
  isFirstThinkingContent : Bool := true
  sendLastThinkingContent : Bool := false
  hasSentThinkingContent : Bool := false
  deriving DecidableEq, Repr

/-- What the handler is told of the request and its channel. -/
structure ForwardInfo where
  /-- `ChannelSetting.ForceFormat`. -/
  forceFormat : Bool := false
  /-- `ChannelSetting.ThinkingToContent`. -/
  thinkingToContent : Bool := false
  shouldIncludeUsage : Bool := false
  relayMode : RelayMode := .chatCompletions
  upstreamModelName : String := ""
  /-- The name of the model contains "audio". -/
  isAudioModel : Bool := false
  estimatePromptTokens : Int := 0
  /-- `EstimateTokenByModel` of the model. -/
  estimateTokens : String → Int := fun _ => 0
  /-- `applyUsagePostProcessing` of the channel, with the last data. -/
  applyUsagePostProcessing : Usage → String → Usage := fun usage _ => usage

/-- What the client is sent. -/
inductive ClientEvent where
  /-- `helper.StringData`. -/
  | data (text : String)
  /-- `helper.ObjectData`. -/
  | object (response : StreamResponse)
  | done
  deriving DecidableEq, Repr

open ClientEvent

/-! ## Sending -/

def ChoiceDelta.say (delta : ChoiceDelta) (text : String) : ChoiceDelta :=
  { delta with content := some text, reasoningContent := none, reasoning := none }

def StreamResponse.say (response : StreamResponse) (text : String) : StreamResponse :=
  { response with
    choices := response.choices.map fun choice => { choice with delta := choice.delta.say text } }

/-- The end of `sendStreamData`: reasoning becomes text.  The closing tag is sent in front of the
first choice, as the flag is set from then on. -/
def convertThinking (thinking : ThinkingContentInfo) (response : StreamResponse)
    (hasThinkingContent hasContent : Bool) : Out ClientEvent ThinkingContentInfo :=
  let closing : Out ClientEvent ThinkingContentInfo :=
    if hasContent ∧ ¬thinking.sendLastThinkingContent ∧ thinking.hasSentThinkingContent then
      ⟨[.object (response.say "\n</think>\n")], { thinking with sendLastThinkingContent := true }⟩
    else .silent thinking
  closing.andThen fun thinking =>
    ⟨[.object { response with
        choices := response.choices.map fun choice =>
          if choice.delta.getReasoningContent ≠ "" then
            { choice with delta := choice.delta.say choice.delta.getReasoningContent }
          else if ¬hasThinkingContent ∧ ¬hasContent then
            { choice with
              delta := { choice.delta with reasoningContent := none, reasoning := none } }
          else choice }], thinking⟩

/-- `sendStreamData`; data that cannot be decoded is an error that is logged only. -/
def sendStreamData (codec : StreamCodec ε) (info : ForwardInfo) (thinking : ThinkingContentInfo)
    (data : String) : Out ClientEvent ThinkingContentInfo :=
  if data = "" then .silent thinking
  else if ¬info.forceFormat ∧ ¬info.thinkingToContent then ⟨[.data data], thinking⟩
  else
    match codec.unmarshal data with
    | none => .silent thinking
    | some response =>
      if ¬info.thinkingToContent then ⟨[.object response], thinking⟩
      else
        let reasoning := response.choices.map fun choice => choice.delta.getReasoningContent
        let hasThinkingContent := reasoning.any (· ≠ "")
        let hasContent := response.choices.any fun choice => choice.delta.getContentString ≠ ""
        if thinking.isFirstThinkingContent ∧ hasThinkingContent then
          ⟨[.object (response.say ("<think>\n" ++ String.join reasoning))],
            { thinking with isFirstThinkingContent := false, hasSentThinkingContent := true }⟩
        else if response.choices = [] then ⟨[.object response], thinking⟩
        else convertThinking thinking response hasThinkingContent hasContent

/-! ## The stream -/

/-- The variables of `OaiStreamHandler`. -/
structure Forwarding (ε : Type) where
  lastStreamData : String := ""
  secondLastStreamData : String := ""
  responseText : String := ""
  toolCount : Nat := 0
  streamErr : Option (StreamError ε) := none
  thinking : ThinkingContentInfo := {}

def Forwarding.processStreamResponse (state : Forwarding ε) (response : StreamResponse) :
    Forwarding ε :=
  response.choices.foldl (fun state choice =>
    { state with
      responseText := state.responseText ++ choice.delta.getContentString ++
        choice.delta.getReasoningContent ++
        String.join (choice.delta.toolCalls.map fun tool => tool.name ++ tool.arguments)
      toolCount := max state.toolCount choice.delta.toolCalls.length }) state

def Forwarding.processTokenData (codec : StreamCodec ε) (relayMode : RelayMode)
    (state : Forwarding ε) (data : String) : Forwarding ε :=
  match relayMode with
  | .chatCompletions =>
    match codec.unmarshal data with
    | some response => state.processStreamResponse response
    | none => state
  | .completions =>
    match codec.unmarshalTexts data with
    | some texts => { state with responseText := state.responseText ++ String.join texts }
    | none => state
  | .other => state

/-- The function that `StreamScannerHandler` calls with the data of an event. -/
def Forwarding.receive (codec : StreamCodec ε) (info : ForwardInfo) (state : Forwarding ε)
    (data : String) : Out ClientEvent (Forwarding ε) :=
  if state.streamErr.isSome then .silent state
  else
    match openAIStreamError codec data with
    | some error => .silent { state with streamErr := some error }
    | none =>
      let sent := sendStreamData codec info state.thinking state.lastStreamData
      let state := { state with thinking := sent.state }
      ⟨sent.events, if data ≠ "" then
          let state := if info.isAudioModel ∧ state.lastStreamData ≠ "" then
              { state with secondLastStreamData := state.lastStreamData }
            else state
          { state with lastStreamData := data }.processTokenData codec info.relayMode data
        else state⟩

/-! ## The end of the stream -/

def validUsage (usage : Option Usage) : Bool :=
  usage.any fun usage => usage.promptTokens ≠ 0 ∨ usage.completionTokens ≠ 0

def StreamResponse.hasText (response : StreamResponse) : Bool :=
  response.choices.any fun choice =>
    choice.delta.getContentString ≠ "" ∨ choice.delta.getReasoningContent ≠ ""

/-- The variables that `handleLastResponse` sets. -/
structure LastResponse where
  responseId : String := ""
  model : String
  usage : Usage := {}
  containStreamUsage : Bool := false
  shouldSendLastResp : Bool := true
  deriving DecidableEq, Repr

def handleLastResponse (codec : StreamCodec ε) (info : ForwardInfo) (lastStreamData : String)
    (last : LastResponse) : LastResponse :=
  match codec.unmarshal lastStreamData with
  | none => last
  | some response =>
    let last := { last with responseId := response.id, model := response.model }
    match response.usage with
    | none => last
    | some usage =>
      if validUsage (some usage) then
        { last with
          usage := usage
          containStreamUsage := true
          shouldSendLastResp :=
            if ¬info.shouldIncludeUsage then response.hasText else last.shouldSendLastResp }
      else last

def audioUsage (codec : StreamCodec ε) (info : ForwardInfo) (secondLastStreamData : String) :
    Option Usage :=
  if info.isAudioModel ∧ secondLastStreamData ≠ "" then
    (codec.unmarshalUsage secondLastStreamData).filter fun usage => validUsage (some usage)
  else none

/-- What `OaiStreamHandler` does after the stream, and the usage that it returns. -/
def Forwarding.finish (codec : StreamCodec ε) (info : ForwardInfo) (state : Forwarding ε) :
    Out ClientEvent Usage :=
  let audio := audioUsage codec info state.secondLastStreamData
  let last := handleLastResponse codec info state.lastStreamData
    { model := info.upstreamModelName
      usage := audio.getD {}
      containStreamUsage := audio.isSome }
  let sent := if last.shouldSendLastResp then
      (sendStreamData codec info state.thinking state.lastStreamData).events
    else []
  let usage := if last.containStreamUsage then last.usage
    else
      { promptTokens := info.estimatePromptTokens
        completionTokens := info.estimateTokens state.responseText + state.toolCount * 7 }
  let usage := info.applyUsagePostProcessing usage state.lastStreamData
  let final := if info.shouldIncludeUsage ∧ ¬last.containStreamUsage then
      [object (generateFinalUsageResponse last.responseId last.model usage)]
    else []
  ⟨sent ++ final ++ [.done], usage⟩

/-- `OaiStreamHandler` for a client of the OpenAI format, when the stream ends normally. -/
def Forwarding.oaiStreamHandler (codec : StreamCodec ε) (info : ForwardInfo)
    (events : List String) : Out ClientEvent (Except (StreamError ε) Usage) :=
  (transduce (Forwarding.receive codec info) {} events).andThen fun state =>
    match state.streamErr with
    | some error => .silent (.error error)
    | none => ⟨(state.finish codec info).events, .ok (state.finish codec info).state⟩

/-! ## Complete forwarding -/

/-- Some choice has a text, reasoning, a fragment of a tool call or a finish reason. -/
def StreamResponse.carries (response : StreamResponse) : Bool :=
  response.hasText || response.choices.any fun choice =>
    choice.delta.toolCalls ≠ [] ∨ choice.isFinished

/-- The data is a chunk that carries something. -/
def StreamCodec.carries (codec : StreamCodec ε) (data : String) : Bool :=
  (codec.unmarshal data).any StreamResponse.carries

def ClientEvent.data? : ClientEvent → Option String
  | .data text => some text
  | .object _ | .done => none

/-- The client gets every chunk that carries something, once and in order; others may be left
out. -/
structure ForwardsAll (codec : StreamCodec ε) (chunks : List String) (sent : List ClientEvent) :
    Prop where
  sublist : (sent.filterMap data?).Sublist chunks
  complete : (sent.filterMap data?).filter codec.carries = chunks.filter codec.carries

/-- The data of a stream of chunks without an error. -/
structure AreChunks (codec : StreamCodec ε) (chunks : List String) : Prop where
  nonempty : ∀ data ∈ chunks, data ≠ ""
  noError : ∀ data ∈ chunks, openAIStreamError codec data = none

/-- A last chunk with a usage that the client did not ask for has text, or carries nothing. -/
def LastIsText (codec : StreamCodec ε) (info : ForwardInfo) (chunks : List String) : Prop :=
  ∀ data ∈ chunks.getLast?, ∀ response ∈ codec.unmarshal data,
    info.shouldIncludeUsage = false → validUsage response.usage = true →
      response.carries = true → response.hasText = true

/-- The last chunk is not sent: it has a usage that the client did not ask for, and no text. -/
def withheld (codec : StreamCodec ε) (info : ForwardInfo) (data : String) : Bool :=
  (codec.unmarshal data).any fun response =>
    !info.shouldIncludeUsage && validUsage response.usage && !response.hasText

/-! ## The run -/

namespace Forwarding

theorem processTokenData_frame (codec : StreamCodec ε) (relayMode : RelayMode)
    (state : Forwarding ε) (data : String) :
    (state.processTokenData codec relayMode data).lastStreamData = state.lastStreamData ∧
      (state.processTokenData codec relayMode data).streamErr = state.streamErr := by
  cases relayMode with
  | chatCompletions =>
    simp only [processTokenData]
    cases codec.unmarshal data with
    | none => exact ⟨rfl, rfl⟩
    | some =>
      exact foldlRecOn (motive := fun next : Forwarding ε => next.lastStreamData = _ ∧
        next.streamErr = _) _ _ ⟨rfl, rfl⟩ fun _ kept _ _ => kept
  | completions =>
    simp only [processTokenData]
    cases codec.unmarshalTexts data with
    | none | some => exact ⟨rfl, rfl⟩
  | other => exact ⟨rfl, rfl⟩

end Forwarding

section Run

variable {codec : StreamCodec ε} {info : ForwardInfo}

theorem sendStreamData_plain (noFormat : info.forceFormat = false)
    (noThinking : info.thinkingToContent = false) (thinking : ThinkingContentInfo) (data : String) :
    (sendStreamData codec info thinking data).events = if data = "" then [] else [.data data] := by
  rw [sendStreamData, noFormat, noThinking]
  split
  · rfl
  · rfl

/-- After some chunks, all but the last are sent and the last is held back. -/
structure HoldsLast (chunks : List String) (out : Out ClientEvent (Forwarding ε)) : Prop where
  sent : out.events = chunks.dropLast.map data
  last : out.state.lastStreamData = chunks.getLast?.getD ""
  noError : out.state.streamErr = none

variable {chunks : List String}

theorem sent_last (nonempty : ∀ data ∈ chunks, data ≠ "") :
    chunks.dropLast.map data ++
        (if chunks.getLast?.getD "" = "" then [] else [.data (chunks.getLast?.getD "")]) =
      chunks.map data := by
  induction chunks using reverseRecOn with
  | nil => rfl
  | append_singleton chunks data =>
    have solid : data ≠ "" := nonempty data (by simp)
    simp [solid]

variable (noFormat : info.forceFormat = false) (noThinking : info.thinkingToContent = false)

include noFormat noThinking

theorem HoldsLast.receive {out : Out ClientEvent (Forwarding ε)}
    (held : HoldsLast chunks out) {data : String} (nonempty : ∀ data ∈ chunks, data ≠ "")
    (solid : data ≠ "") (noError : openAIStreamError codec data = none) :
    HoldsLast (chunks ++ [data]) (out.andThen fun state => state.receive codec info data) := by
  have frame := fun other : Forwarding ε => Forwarding.processTokenData_frame codec
    info.relayMode { other with lastStreamData := data } data
  have received := Forwarding.receive.eq_def codec info out.state data
  rw [held.noError, noError] at received
  simp only [Option.isSome_none, Bool.false_eq_true, if_false, if_pos solid] at received
  constructor
  · rw [Out.andThen_events, received, held.sent, sendStreamData_plain noFormat noThinking,
      held.last, sent_last nonempty, dropLast_concat]
  · rw [Out.andThen_state, received, (frame _).1, getLast?_concat, Option.getD_some]
  · rw [Out.andThen_state, received, (frame _).2]
    split
    · rfl
    · rfl

theorem holdsLast (valid : AreChunks codec chunks) :
    HoldsLast chunks (transduce (Forwarding.receive codec info) {} chunks) := by
  induction chunks using reverseRecOn with
  | nil => exact ⟨rfl, rfl, rfl⟩
  | append_singleton chunks data ih =>
    obtain ⟨nonempty, solid⟩ := forall_mem_append.mp valid.nonempty
    obtain ⟨noErrors, noError⟩ := forall_mem_append.mp valid.noError
    rw [transduce_append]
    have step := (ih ⟨nonempty, noErrors⟩).receive noFormat noThinking nonempty
      (solid data (mem_singleton_self data)) (noError data (mem_singleton_self data))
    simpa only [transduce_cons, transduce_nil, Out.andThen_silent] using step

omit noFormat noThinking

theorem handleLastResponse_shouldSend (data : String) {last : LastResponse}
    (initially : last.shouldSendLastResp = true) :
    (handleLastResponse codec info data last).shouldSendLastResp = !withheld codec info data := by
  rw [handleLastResponse, withheld]
  cases codec.unmarshal data with
  | none => exact initially
  | some response =>
    obtain ⟨_, _, _, usage⟩ := response
    cases usage with
    | none => simp [initially, validUsage]
    | some usage =>
      cases info.shouldIncludeUsage <;> cases valid : validUsage (some usage) <;>
        simp [initially, valid]

include noFormat noThinking

theorem received_eq (valid : AreChunks codec chunks) :
    (Forwarding.oaiStreamHandler codec info chunks).events.filterMap data? =
      if withheld codec info (chunks.getLast?.getD "") then chunks.dropLast else chunks := by
  have held := @holdsLast _ codec info chunks noFormat noThinking valid
  have datas : ∀ texts : List String, (texts.map data).filterMap data? = texts := by
    intro texts
    rw [filterMap_map]
    exact filterMap_some
  rw [Forwarding.oaiStreamHandler, Out.andThen_events, held.noError, held.sent]
  simp only [Forwarding.finish, handleLastResponse_shouldSend, held.last,
    sendStreamData_plain noFormat noThinking, filterMap_append, datas]
  have own : ∀ (reports : Prop) [Decidable reports] (response : StreamResponse),
      (if reports then [object response] else []).filterMap data? = [] := by
    intro reports _ response
    split
    · rfl
    · rfl
  have ending : [done].filterMap data? = [] := rfl
  rw [own, ending]
  cases withheld codec info (chunks.getLast?.getD "") with
  | true => simp
  | false =>
    have all := congrArg (List.filterMap data?) (sent_last valid.nonempty)
    rw [filterMap_append, datas, datas] at all
    simpa using all

omit noFormat noThinking

theorem lastIsText_iff :
    LastIsText codec info chunks ↔
      ∀ data ∈ chunks.getLast?, withheld codec info data = true → codec.carries data = false := by
  refine forall₂_congr fun data _ => ?_
  rw [withheld, StreamCodec.carries]
  cases codec.unmarshal data with
  | none => exact iff_of_true nofun fun _ => rfl
  | some response =>
    simp only [Option.mem_some, forall_eq', Option.any_some]
    cases info.shouldIncludeUsage <;> cases validUsage response.usage <;>
      cases response.hasText <;> cases response.carries <;> decide

end Run

/-! ## The main result -/

/-- With chunks sent on as they are, the client gets every chunk that carries something exactly
when a last chunk with a usage that it did not ask for has text or carries nothing. -/
theorem forwardsAll_iff (codec : StreamCodec ε) (info : ForwardInfo)
    (noFormat : info.forceFormat = false) (noThinking : info.thinkingToContent = false)
    (chunks : List String) (valid : AreChunks codec chunks) :
    ForwardsAll codec chunks (Forwarding.oaiStreamHandler codec info chunks).events ↔
      LastIsText codec info chunks := by
  have received := received_eq noFormat noThinking valid
  rw [lastIsText_iff]
  induction chunks using reverseRecOn with
  | nil =>
    refine iff_of_true ⟨?_, ?_⟩ nofun
    · rw [received]
      simp
    · rw [received]
      simp
  | append_singleton chunks data _ =>
    rw [getLast?_concat, Option.getD_some, dropLast_concat] at received
    simp only [getLast?_concat, Option.mem_some, forall_eq']
    cases kept : withheld codec info data with
    | false =>
      rw [kept] at received
      refine iff_of_true ⟨?_, ?_⟩ nofun
      · rw [received]
        exact List.Sublist.refl _
      · rw [received]
        rfl
    | true =>
      rw [kept, if_pos rfl] at received
      constructor
      · rintro ⟨-, complete⟩ -
        rw [received, filter_append, self_eq_append_right,
          filter_eq_nil_iff] at complete
        exact Bool.eq_false_iff.mpr (complete data (mem_singleton_self data))
      · intro nothing
        constructor
        · rw [received]
          exact sublist_append_left chunks [data]
        · rw [received, filter_append, filter_singleton, nothing rfl]
          exact (append_nil _).symm

abbrev helloData : String :=
  "\x7b\"choices\":[\x7b\"delta\":\x7b\"content\":\"hello\"\x7d\x7d]\x7d"

abbrev stopData : String := "\x7b\"choices\":[\x7b\"finish_reason\":\"stop\"\x7d]\x7d"

/-- The chunk with the finish reason has the usage, too. -/
abbrev stopWithUsageData : String :=
  "\x7b\"choices\":[\x7b\"finish_reason\":\"stop\"\x7d],\"usage\":" ++
    "\x7b\"prompt_tokens\":3,\"completion_tokens\":1\x7d\x7d"

def greetingCodec : StreamCodec String where
  unmarshal := fun data =>
    if data = helloData then some { choices := [{ delta := { content := some "hello" } }] }
    else if data = stopData then some { choices := [{ finishReason := some "stop" }] }
    else if data = stopWithUsageData then
      some { choices := [{ finishReason := some "stop" }]
             usage := some { promptTokens := 3, completionTokens := 1 } }
    else none
  unmarshalTexts := fun _ => none
  unmarshalUsage := fun _ => none
  payload := fun _ => none

theorem greetingCodec_noError (data : String) : openAIStreamError greetingCodec data = none := by
  rw [openAIStreamError]
  split
  · rfl
  · rfl

/-- Without a usage in the last chunk, all chunks arrive. -/
theorem forwardsAll_greeting :
    ForwardsAll greetingCodec [helloData, stopData]
      (Forwarding.oaiStreamHandler greetingCodec {} [helloData, stopData]).events := by
  apply (forwardsAll_iff greetingCodec {} rfl rfl [helloData, stopData]
    ⟨by decide, fun data _ => greetingCodec_noError data⟩).mpr
  rw [lastIsText_iff]
  decide

/-- With the usage in the chunk that has the finish reason, the client never gets to know that the
answer is finished. -/
theorem finish_withheld :
    AreChunks greetingCodec [helloData, stopWithUsageData] ∧
      (Forwarding.oaiStreamHandler greetingCodec {} [helloData, stopWithUsageData]).events =
        [.data helloData, .done] ∧ ¬ForwardsAll greetingCodec [helloData, stopWithUsageData]
        (Forwarding.oaiStreamHandler greetingCodec {} [helloData, stopWithUsageData]).events := by
  have events :
      (Forwarding.oaiStreamHandler greetingCodec {} [helloData, stopWithUsageData]).events =
        [.data helloData, .done] := by decide +kernel
  refine ⟨⟨by decide, fun data _ => greetingCodec_noError data⟩, events, ?_⟩
  intro forwards
  exact absurd forwards.complete (by decide +kernel)

end StuHelper.Relay
