import StuHelper.Lib.Text
import StuHelper.Relay.ChatClient

/-!
# Chat completions as Gemini responses

`ResponseOpenAI2Gemini` converts a whole response: a part for every tool call, or the text.
`StreamResponseOpenAI2Gemini` converts chunk by chunk and keeps no state: it makes a part of
every fragment of a tool call.  A tool call that comes in several fragments becomes several
function calls, so the two agree exactly where no tool call is cut.
-/

namespace StuHelper.Relay

open Lib List

variable {ω : Type}

/-! ## Gemini messages -/

/-- `dto.FunctionCall` of Gemini. -/
structure GeminiFunctionCall (ω : Type) where
  functionName : String
  arguments : ω
  deriving DecidableEq, Repr

/-- `dto.GeminiPart`, as far as the conversions read and build it. -/
structure GeminiPart (ω : Type) where
  text : String := ""
  /-- The MIME type and the data. -/
  inlineData : Option (String × String) := none
  /-- The MIME type and the URI. -/
  fileData : Option (String × String) := none
  functionCall : Option (GeminiFunctionCall ω) := none
  /-- `FunctionResponse.Response`. -/
  functionResponse : Option ω := none
  deriving DecidableEq, Repr

/-- `dto.GeminiChatContent`. -/
structure GeminiContent (ω : Type) where
  role : String
  parts : List (GeminiPart ω)
  deriving DecidableEq, Repr

/-- `dto.GeminiChatCandidate`. -/
structure GeminiCandidate (ω : Type) where
  index : Int
  finishReason : Option String
  content : GeminiContent ω
  deriving DecidableEq, Repr

/-- `dto.GeminiUsageMetadata`. -/
structure GeminiUsageMetadata where
  promptTokenCount : Int
  candidatesTokenCount : Int
  totalTokenCount : Int
  deriving DecidableEq, Repr

/-- `dto.GeminiChatResponse`. -/
structure GeminiResponse (ω : Type) where
  candidates : List (GeminiCandidate ω)
  usageMetadata : GeminiUsageMetadata
  deriving DecidableEq, Repr

def GeminiResponse.parts (response : GeminiResponse ω) : List (GeminiPart ω) :=
  response.candidates.flatMap fun candidate => candidate.content.parts

/-- What the conversion needs of JSON: the objects, the empty one, and the object that holds a
text under `arguments`.  The empty text is no object. -/
structure GeminiCodec (ω : Type) where
  unmarshal : String → Option ω
  unmarshal_empty : unmarshal "" = none
  empty : ω
  raw : String → ω

/-! ## Both conversions -/

/-- The choice of a whole response. -/
structure TextChoice where
  index : Int
  message : Message
  finishReason : String
  deriving DecidableEq, Repr

/-- The choice of a chunk.  A missing list of tool calls and an empty one are not the same
here. -/
structure ChunkChoice where
  index : Int := 0
  content : Option String := none
  toolCalls : Option (List ToolCallResponse) := none
  finishReason : Option String := none
  deriving DecidableEq, Repr

/-- A chunk; the usage is the prompt tokens, the completion tokens and the total. -/
structure GeminiChunk where
  choices : List ChunkChoice
  usage : Option (Int × Int × Int) := none
  deriving DecidableEq, Repr

def geminiFinishReason (finishReason : String) : String :=
  if finishReason = "stop" then "STOP"
  else if finishReason = "length" then "MAX_TOKENS"
  else if finishReason = "content_filter" then "SAFETY"
  else if finishReason = "tool_calls" then "STOP"
  else "STOP"

section Conversion

variable (codec : GeminiCodec ω)

/-- The arguments of a tool call; what is not an object is wrapped. -/
def GeminiCodec.args (arguments : String) : ω :=
  if arguments ≠ "" then (codec.unmarshal arguments).getD (codec.raw arguments) else codec.empty

def callPart (name arguments : String) : GeminiPart ω :=
  { functionCall := some ⟨name, codec.args arguments⟩ }

def textParts (text : String) : List (GeminiPart ω) := if text ≠ "" then [{ text := text }] else []

def textCandidate (choice : TextChoice) : GeminiCandidate ω :=
  let toolCalls := choice.message.parseToolCalls
  { index := choice.index
    finishReason := some (geminiFinishReason choice.finishReason)
    content := ⟨"model",
      if toolCalls ≠ [] then toolCalls.map fun call => callPart codec call.name call.arguments
      else textParts choice.message.stringContent⟩ }

def responseOpenAI2Gemini (choices : List TextChoice) (promptTokens completionTokens : Int) :
    GeminiResponse ω :=
  { candidates := choices.map (textCandidate codec)
    usageMetadata := ⟨promptTokens, completionTokens, promptTokens + completionTokens⟩ }

def ChunkChoice.getContentString (choice : ChunkChoice) : String := choice.content.getD ""

def chunkCandidate (choice : ChunkChoice) : GeminiCandidate ω :=
  { index := choice.index
    finishReason := choice.finishReason.map geminiFinishReason
    content := ⟨"model",
      match choice.toolCalls with
      | some toolCalls => toolCalls.map fun call => callPart codec call.name call.arguments
      | none => textParts choice.getContentString⟩ }

/-- The choice has a text or a fragment of a tool call. -/
def ChunkChoice.hasContent (choice : ChunkChoice) : Bool :=
  choice.getContentString ≠ "" || !(choice.toolCalls.getD []).isEmpty

def streamResponseOpenAI2Gemini (estimatePromptTokens : Int) (chunk : GeminiChunk) :
    Option (GeminiResponse ω) :=
  let hasContent := chunk.choices.any ChunkChoice.hasContent
  let hasFinishReason := chunk.choices.any fun choice => choice.finishReason.isSome
  if !hasContent && !hasFinishReason then none
  else some
    { candidates := chunk.choices.map (chunkCandidate codec)
      usageMetadata :=
        match chunk.usage with
        | none => ⟨estimatePromptTokens, 0, estimatePromptTokens⟩
        | some (promptTokens, completionTokens, totalTokens) =>
          ⟨promptTokens, completionTokens, totalTokens⟩ }

end Conversion

/-! ## The client -/

/-- Adjacent texts are joined. -/
def joinParts : List (GeminiPart ω) → List (GeminiPart ω)
  | [] => []
  | part :: parts =>
    match joinParts parts with
    | [] => [part]
    | next :: rest =>
      if part.text ≠ "" ∧ next.text ≠ "" then { next with text := part.text ++ next.text } :: rest
      else part :: next :: rest

def collectedParts (responses : List (GeminiResponse ω)) : List (GeminiPart ω) :=
  joinParts (responses.flatMap GeminiResponse.parts)

/-- The chunk as a client of chat completions reads it. -/
def GeminiChunk.response (chunk : GeminiChunk) : StreamResponse :=
  { choices := chunk.choices.map fun choice =>
      { delta := { content := choice.content, toolCalls := choice.toolCalls.getD [] }
        finishReason := choice.finishReason } }

/-- The chunks, each with one choice at most, are a way to stream the message: a client of chat
completions reads its text and its tool calls from them. -/
structure SplitInto (message : Message) (chunks : List GeminiChunk) : Prop where
  single : ∀ chunk ∈ chunks, chunk.choices.length ≤ 1
  content : (assembled (chunks.map GeminiChunk.response)).content = message.stringContent
  toolCalls : (assembled (chunks.map GeminiChunk.response)).toolCalls = message.parseToolCalls

/-- The message is a text, or tool calls whose arguments are objects. -/
structure TextOrCalls (codec : GeminiCodec ω) (message : Message) : Prop where
  only : message.stringContent = "" ∨ message.parseToolCalls = []
  objects : ∀ call ∈ message.parseToolCalls, (codec.unmarshal call.arguments).isSome

/-- The parts of a message: a function call for every tool call, with the object that its
arguments are, or else the whole text. -/
def Message.geminiParts (codec : GeminiCodec ω) (message : Message) : List (GeminiPart ω) :=
  if message.parseToolCalls ≠ [] then
    message.parseToolCalls.map fun call =>
      { functionCall := some ⟨call.name, (codec.unmarshal call.arguments).getD codec.empty⟩ }
  else if message.stringContent ≠ "" then [{ text := message.stringContent }]
  else []

def allChoices (chunks : List GeminiChunk) : List ChunkChoice :=
  chunks.flatMap GeminiChunk.choices

def fragments (choices : List ChunkChoice) : List ToolCallResponse :=
  choices.flatMap fun choice => choice.toolCalls.getD []

/-- No tool call is cut, and no text comes with an empty list of tool calls. -/
structure Uncut (chunks : List GeminiChunk) : Prop where
  calls : ((fragments (allChoices chunks)).map fun fragment => fragment.index.getD 0).Nodup
  texts : ∀ choice ∈ allChoices chunks, choice.toolCalls = some [] → choice.getContentString = ""

/-! ## What is collected and what is read -/

section Collected

variable (codec : GeminiCodec ω)

def ChunkChoice.parts (choice : ChunkChoice) : List (GeminiPart ω) :=
  (chunkCandidate codec choice).content.parts

theorem parts_of_not_hasContent {choice : ChunkChoice} (empty : choice.hasContent = false) :
    choice.parts codec = [] := by
  simp only [ChunkChoice.hasContent, Bool.or_eq_false_iff, decide_eq_false_iff_not, not_not,
    Bool.not_eq_false', List.isEmpty_iff] at empty
  rw [ChunkChoice.parts, chunkCandidate]
  cases calls : choice.toolCalls with
  | none => simp [textParts, empty.1]
  | some toolCalls =>
    rw [calls] at empty
    simp [show toolCalls = [] from empty.2]

theorem flatMap_streamResponse (estimatePromptTokens : Int) (chunks : List GeminiChunk) :
    (chunks.filterMap (streamResponseOpenAI2Gemini codec estimatePromptTokens)).flatMap
        GeminiResponse.parts = (allChoices chunks).flatMap (ChunkChoice.parts codec) := by
  induction chunks with
  | nil => rfl
  | cons chunk chunks ih =>
    rw [allChoices, flatMap_cons, flatMap_append, ← allChoices, ← ih, filterMap_cons]
    cases converted : streamResponseOpenAI2Gemini codec estimatePromptTokens chunk with
    | none =>
      have empty : chunk.choices.flatMap (ChunkChoice.parts codec) = [] := by
        apply flatMap_eq_nil_iff.mpr
        intro choice member
        apply parts_of_not_hasContent
        by_contra some
        have any : chunk.choices.any ChunkChoice.hasContent = true :=
          any_eq_true.mpr ⟨choice, member, Bool.not_eq_false _ ▸ some⟩
        simp [streamResponseOpenAI2Gemini, any] at converted
      rw [empty, nil_append]
    | some response =>
      have parts : response.parts = chunk.choices.flatMap (ChunkChoice.parts codec) := by
        simp only [streamResponseOpenAI2Gemini] at converted
        split at converted
        · cases converted
        · cases converted
          rw [GeminiResponse.parts, flatMap_map]
          rfl
      rw [flatMap_cons, parts]

end Collected

def beginCall (fragment : ToolCallResponse) : Int × ToolCallRequest :=
  (fragment.index.getD 0, ⟨fragment.id, fragment.name, fragment.arguments⟩)

def extendCall (fragment : ToolCallResponse) (entry : Int × ToolCallRequest) :
    Int × ToolCallRequest := (entry.1, entry.2.extend fragment)

theorem foldl_response {chunks : List GeminiChunk}
    (single : ∀ chunk ∈ chunks, chunk.choices.length ≤ 1) (reader : ChatReader) :
    ((chunks.map GeminiChunk.response).foldl ChatReader.read reader).content =
        reader.content ++ String.join ((allChoices chunks).map ChunkChoice.getContentString) ∧
      ((chunks.map GeminiChunk.response).foldl ChatReader.read reader).toolCalls =
        (fragments (allChoices chunks)).foldl readFragment reader.toolCalls := by
  induction chunks generalizing reader with
  | nil => exact ⟨String.append_empty.symm, rfl⟩
  | cons chunk chunks ih =>
    obtain ⟨here, later⟩ := forall_mem_cons.mp single
    obtain ⟨content, calls⟩ := ih later (reader.read chunk.response)
    rw [map_cons, foldl_cons, content, calls]
    obtain ⟨choices, usage⟩ := chunk
    cases choices with
    | nil => exact ⟨rfl, rfl⟩
    | cons choice choices =>
      have none : choices = [] := by
        rw [← length_eq_zero_iff]
        exact Nat.le_zero.mp (Nat.le_of_succ_le_succ here)
      subst none
      change _ = _ ++ String.join ((choice :: allChoices chunks).map _) ∧
        _ = (fragments (choice :: allChoices chunks)).foldl _ _
      constructor
      · rw [map_cons, String.join_cons, ← String.append_assoc]
        rfl
      · rw [fragments, fragments, flatMap_cons, foldl_append]
        rfl

/-! ## Joined parts -/

theorem joinParts_textParts (texts : List String) :
    (joinParts (texts.flatMap textParts) : List (GeminiPart ω)) =
      textParts (String.join texts) := by
  induction texts with
  | nil => rfl
  | cons text texts ih =>
    rw [flatMap_cons, String.join_cons]
    by_cases empty : text = ""
    · simp only [textParts, empty, ne_eq, not_true_eq_false, if_false, nil_append,
        String.empty_append]
      exact ih
    · have one : (textParts text : List (GeminiPart ω)) = [{ text := text }] := if_pos empty
      rw [one, singleton_append, joinParts, ih]
      by_cases last : String.join texts = ""
      · simp [textParts, last, empty]
      · simp [textParts, last, empty]

theorem joinParts_of_silent {parts : List (GeminiPart ω)}
    (silent : ∀ part ∈ parts, part.text = "") : joinParts parts = parts := by
  induction parts with
  | nil => rfl
  | cons part parts ih =>
    obtain ⟨here, later⟩ := forall_mem_cons.mp silent
    rw [joinParts, ih later]
    cases parts with
    | nil => rfl
    | cons => simp [here]

/-! ## Agreement -/

theorem textParts_inj {first second : String} :
    (textParts first : List (GeminiPart ω)) = textParts second ↔ first = second := by
  constructor
  · intro same
    by_cases firstEmpty : first = ""
    · by_cases secondEmpty : second = ""
      · rw [firstEmpty, secondEmpty]
      · simp [textParts, firstEmpty, secondEmpty] at same
    · by_cases secondEmpty : second = ""
      · simp [textParts, firstEmpty, secondEmpty] at same
      · simpa [textParts, firstEmpty, secondEmpty] using same
  · exact congrArg textParts

section Agreement

variable (codec : GeminiCodec ω)

variable {message : Message} {chunks : List GeminiChunk}

section

variable (split : SplitInto message chunks)

include split

theorem SplitInto.join_content :
    String.join ((allChoices chunks).map ChunkChoice.getContentString) = message.stringContent := by
  have read := (foldl_response split.single {}).1
  rw [← split.content]
  exact (String.empty_append.symm.trans read.symm)

theorem SplitInto.gathered :
    (gather Prod.fst beginCall extendCall [] (fragments (allChoices chunks))).map Prod.snd =
      message.parseToolCalls := by
  have read := (foldl_response split.single {}).2
  rw [← split.toolCalls]
  exact congrArg (map Prod.snd) read.symm

theorem collected_text (none : message.parseToolCalls = []) :
    joinParts ((allChoices chunks).flatMap (ChunkChoice.parts codec)) =
        textParts message.stringContent ↔ Uncut chunks := by
  have noFragments : fragments (allChoices chunks) = [] := by
    by_contra some
    have gathered := split.gathered
    rw [none, map_eq_nil_iff] at gathered
    exact gather_ne_nil some gathered
  have empty := flatMap_eq_nil_iff.mp noFragments
  have parts : (allChoices chunks).flatMap (ChunkChoice.parts codec) =
      ((allChoices chunks).map fun choice =>
        if choice.toolCalls.isSome then "" else choice.getContentString).flatMap textParts := by
    rw [flatMap_map]
    apply flatMap_congr
    intro choice member
    have here := empty choice member
    rw [ChunkChoice.parts, chunkCandidate]
    cases calls : choice.toolCalls with
    | none => rfl
    | some toolCalls =>
      rw [calls] at here
      simp [show toolCalls = [] from here, textParts]
  rw [parts, joinParts_textParts, textParts_inj, ← split.join_content, Text.join_eq_iff]
  constructor
  · intro silent
    constructor
    case calls =>
      rw [noFragments]
      exact nodup_nil
    case texts =>
      intro choice member isEmpty
      exact silent choice member (by rw [isEmpty]; rfl)
  · intro uncut choice member isSome
    obtain ⟨_, calls⟩ := Option.isSome_iff_exists.mp isSome
    have here := empty choice member
    rw [calls] at here
    exact uncut.texts choice member (calls.trans (congrArg some here))

theorem collected_calls (silent : message.stringContent = "") :
    joinParts ((allChoices chunks).flatMap (ChunkChoice.parts codec)) =
        message.parseToolCalls.map (fun call => callPart codec call.name call.arguments) ↔
      Uncut chunks := by
  have contents : ∀ choice ∈ allChoices chunks, choice.getContentString = "" :=
    fun choice member => Text.join_eq_empty_iff.mp (split.join_content.trans silent) _
      (mem_map_of_mem member)
  have parts : (allChoices chunks).flatMap (ChunkChoice.parts codec) =
      (fragments (allChoices chunks)).map fun fragment =>
        callPart codec fragment.name fragment.arguments := by
    rw [fragments, map_flatMap]
    apply flatMap_congr
    intro choice member
    rw [ChunkChoice.parts, chunkCandidate]
    cases calls : choice.toolCalls with
    | none => simp [textParts, contents choice member]
    | some => rfl
  have joined : joinParts ((fragments (allChoices chunks)).map fun fragment =>
      callPart codec fragment.name fragment.arguments) = _ := joinParts_of_silent (by
    intro part member
    obtain ⟨_, -, rfl⟩ := mem_map.mp member
    rfl)
  rw [parts, joined, ← split.gathered]
  constructor
  · intro same
    refine ⟨?_, fun choice member _ => contents choice member⟩
    have long := congrArg length same
    exact @distinct_of_length_gather _ _ _ Prod.fst _ beginCall extendCall
      (fun _ _ isSame => isSame) [] nodup_nil (fragments (allChoices chunks))
      (by simpa using Nat.le_of_eq long)
  · intro uncut
    have distinct : (([] : List (Int × ToolCallRequest)).map Prod.fst ++
        (fragments (allChoices chunks)).map (Prod.fst ∘ beginCall)).Nodup := uncut.calls
    rw [gather_of_distinct distinct, nil_append, map_map, map_map]
    rfl

end

/-- The parts that a client collects from the stream are those of the whole response exactly
where no tool call is cut and no text comes with an empty list of tool calls. -/
theorem gemini_agree_iff (estimatePromptTokens promptTokens completionTokens : Int)
    {choice : TextChoice} (kind : TextOrCalls codec choice.message)
    (split : SplitInto choice.message chunks) :
    (collectedParts (chunks.filterMap (streamResponseOpenAI2Gemini codec estimatePromptTokens)) =
        (responseOpenAI2Gemini codec [choice] promptTokens completionTokens).parts ∧
      (responseOpenAI2Gemini codec [choice] promptTokens completionTokens).parts =
        choice.message.geminiParts codec) ↔ Uncut chunks := by
  have only : (responseOpenAI2Gemini codec [choice] promptTokens completionTokens).parts =
      (textCandidate codec choice).content.parts := append_nil _
  rw [only, textCandidate, Message.geminiParts, collectedParts, flatMap_streamResponse]
  by_cases none : choice.message.parseToolCalls = []
  · rw [and_iff_left (by simp [none, textParts])]
    simp only [none, ne_eq, not_true_eq_false, if_false]
    exact collected_text codec split none
  · simp only [ne_eq, none, not_false_eq_true, if_true]
    rw [and_iff_left]
    swap
    · apply map_congr_left
      intro call member
      obtain ⟨_, parsed⟩ := Option.isSome_iff_exists.mp (kind.objects call member)
      have some : call.arguments ≠ "" := by
        intro empty
        rw [empty, codec.unmarshal_empty] at parsed
        cases parsed
      simp [callPart, GeminiCodec.args, some, parsed]
    exact collected_calls codec split (kind.only.resolve_right none)

end Agreement

/-- A codec that knows one object, the empty one. -/
def braceCodec : GeminiCodec String where
  unmarshal := fun text => if text = "\x7b\x7d" then some text else none
  unmarshal_empty := rfl
  empty := "\x7b\x7d"
  raw := fun text => "raw " ++ text

def weatherCall : TextChoice :=
  { index := 0
    message := { role := "assistant", toolCalls := some [⟨"call_1", "weather", "\x7b\x7d"⟩] }
    finishReason := "tool_calls" }

def fragmentChunk (id name arguments : String) : GeminiChunk :=
  { choices := [{ toolCalls := some [⟨some 0, id, name, arguments⟩] }] }

/-- A tool call in one fragment. -/
theorem gemini_agree_uncut :
    collectedParts ([fragmentChunk "call_1" "weather" "\x7b\x7d"].filterMap
        (streamResponseOpenAI2Gemini braceCodec 0)) =
      (responseOpenAI2Gemini braceCodec [weatherCall] 0 0).parts ∧
    (responseOpenAI2Gemini braceCodec [weatherCall] 0 0).parts =
      weatherCall.message.geminiParts braceCodec :=
  (gemini_agree_iff braceCodec 0 0 0 ⟨by decide, by decide⟩ ⟨by decide, by decide, by decide⟩).mpr
    ⟨by decide, by decide⟩

/-- The same tool call in two fragments becomes two function calls. -/
theorem gemini_disagree :
    let chunks := [fragmentChunk "call_1" "weather" "\x7b", fragmentChunk "" "" "\x7d"]
    TextOrCalls braceCodec weatherCall.message ∧ SplitInto weatherCall.message chunks ∧
      collectedParts (chunks.filterMap (streamResponseOpenAI2Gemini braceCodec 0)) ≠
        (responseOpenAI2Gemini braceCodec [weatherCall] 0 0).parts :=
  ⟨⟨by decide, by decide⟩, ⟨by decide, by decide, by decide⟩, by decide⟩

end StuHelper.Relay
