import Mathlib.Algebra.GroupWithZero.Nat
import Mathlib.Data.List.DropRight
import StuHelper.Relay.Message

/-!
# OpenAI requests as Claude requests

`RequestOpenAI2ClaudeMessage` goes over the messages twice.  The first pass merges a message
into the one before it when both are texts of one role.  The second pass collects the system
messages and turns the others into messages of Claude; the answer of a tool is put into the
last message of the user.

What the conversion is for is said by `joinTexts`: consecutive texts of one role are joined by
a space, and everything else stays as it is and where it is.
-/

namespace StuHelper.Relay

open Message List

variable {text : String} {message original lastMessage first second : Message}
  {messages : List Message}

variable {ω : Type}

/-! ## Messages of Claude -/

/-- `dto.ClaudeMediaMessage`, as the conversion builds it. -/
inductive ClaudeBlock (ω : Type) where
  | text (text : String)
  | file (type mediaType data : String)
  | toolUse (id name : String) (input : ω)
  | toolResult (toolUseId : String) (content : Option Content)
  deriving DecidableEq, Repr

inductive TurnContent (ω : Type) where
  | string (text : String)
  | blocks (blocks : List (ClaudeBlock ω))
  deriving DecidableEq, Repr

/-- `dto.ClaudeMessage`, as the conversion builds it. -/
structure ClaudeTurn (ω : Type) where
  role : String
  content : TurnContent ω
  deriving DecidableEq, Repr

/-- What the conversion needs of JSON and of the file service: the objects, the empty one, and
the block of a file, if there is one.  The empty text is no object. -/
structure ClaudeCodec (ω : Type) where
  unmarshal : String → Option ω
  unmarshal_empty : unmarshal "" = none
  empty : ω
  file : MediaContent → Except String (Option (ClaudeBlock ω))

/-- The input of a tool call; what is not an object is taken for the empty one. -/
def ClaudeCodec.inputObj (codec : ClaudeCodec ω) (arguments : String) : ω :=
  if arguments = "" then codec.empty else (codec.unmarshal arguments).getD codec.empty

/-! ## The first pass -/

/-- `strings.Trim` with a quotation mark. -/
def trimQuotes (text : String) : String :=
  String.ofList ((text.toList.dropWhile (· = '"')).rdropWhile (· = '"'))

namespace Message

/-- The fields that the first pass copies. -/
def copied (message : Message) : Message :=
  { role := message.role
    content := message.content
    toolCallId := if message.role = "tool" then message.toolCallId else ""
    toolCalls := if message.role = "assistant" then message.toolCalls else none }

/-- A message without content says `...`. -/
def orPlaceholder (message : Message) : Message :=
  if message.content = none ∨ message.isStringContent ∧ message.stringContent = "" then
    { message with content := some (.string "...") }
  else message

end Message

def merges (lastMessage message : Message) : Bool :=
  lastMessage.role = message.role && lastMessage.role ≠ "tool" &&
    (lastMessage.isStringContent && message.isStringContent)

/-- One round of the first loop; the state is `formatMessages` and `lastMessage`. -/
def formatMessage (state : List Message × Message) (message : Message) : List Message × Message :=
  let (formatMessages, lastMessage) := state
  let (formatMessages, fmtMessage) : List Message × Message :=
    if merges lastMessage message then
      (formatMessages.dropLast,
        { message.copied with
          content := some (.string (trimQuotes
            (lastMessage.stringContent ++ " " ++ message.stringContent))) })
    else (formatMessages, message.copied)
  let fmtMessage := fmtMessage.orPlaceholder
  (formatMessages ++ [fmtMessage], fmtMessage)

/-- The first pass. -/
def formatMessages (messages : List Message) : List Message :=
  (messages.foldl formatMessage ([], { role := "tool" })).1

/-! ## The second pass -/

def TurnContent.toBlocks : TurnContent ω → List (ClaudeBlock ω)
  | .string said => [.text said]
  | .blocks list => list

/-- The text of a part. -/
def MediaContent.textOf : MediaContent → Option String
  | .text said _ => some said
  | .imageUrl _ _ _ | .inputAudio _ _ | .file _ _ _ | .videoUrl _ => none

def Message.systemTexts (message : Message) : List String :=
  (message.parseContent.filterMap MediaContent.textOf).filter (· ≠ "")

section Conversion

variable (codec : ClaudeCodec ω)

def convertPart (part : MediaContent) : Except String (List (ClaudeBlock ω)) :=
  match part.textOf with
  | some text => .ok (if text ≠ "" then [.text text] else [])
  | none => (codec.file part).map Option.toList

def convertToolCall (toolCall : ToolCallRequest) : ClaudeBlock ω :=
  .toolUse toolCall.id toolCall.name (codec.inputObj toolCall.arguments)

def turnContent (message : Message) : Except String (TurnContent ω) :=
  if message.isStringContent ∧ message.toolCalls = none then
    .ok (.string (if message.stringContent = "" then "..." else message.stringContent))
  else do
    let parts ← message.parseContent.mapM (convertPart codec)
    return .blocks (parts.flatten ++ message.parseToolCalls.map (convertToolCall codec))

def appendResult (claudeMessages : List (ClaudeTurn ω)) (message : Message) : List (ClaudeTurn ω) :=
  let result : ClaudeBlock ω := .toolResult message.toolCallId message.content
  match claudeMessages.getLast? with
  | some lastMessage =>
    if lastMessage.role = "user" then
      claudeMessages.dropLast ++
        [{ lastMessage with content := .blocks (lastMessage.content.toBlocks ++ [result]) }]
    else claudeMessages ++ [⟨"user", .blocks [result]⟩]
  | none => claudeMessages ++ [⟨"user", .blocks [result]⟩]

/-- The variables of the second loop. -/
structure ClaudePass (ω : Type) where
  claudeMessages : List (ClaudeTurn ω) := []
  isFirstMessage : Bool := true
  systemMessages : List String := []
  deriving DecidableEq, Repr

/-- The message in front of a conversation that the user does not begin. -/
def leadingTurn : ClaudeTurn ω := ⟨"user", .blocks [.text "..."]⟩

/-- One round of the second loop. -/
def convertFormatted (pass : ClaudePass ω) (message : Message) : Except String (ClaudePass ω) :=
  if message.role = "system" then
    .ok { pass with systemMessages := pass.systemMessages ++ message.systemTexts }
  else
    let claudeMessages := if pass.isFirstMessage ∧ message.role ≠ "user" then
        pass.claudeMessages ++ [leadingTurn]
      else pass.claudeMessages
    if message.role = "tool" then
      .ok { pass with
            claudeMessages := appendResult claudeMessages message
            isFirstMessage := false }
    else do
      let content ← turnContent codec message
      return { pass with
               claudeMessages := claudeMessages ++ [⟨message.role, content⟩]
               isFirstMessage := false }

/-- The messages and the system field of `RequestOpenAI2ClaudeMessage`. -/
def requestOpenAI2ClaudeMessage (messages : List Message) : Except String (ClaudePass ω) :=
  (formatMessages messages).foldlM (convertFormatted codec) {}

end Conversion

/-! ## The conversation -/

/-- The message that says what this one says. -/
def Message.plain (message : Message) : Message := message.copied.orPlaceholder

/-- The message is a text that follows a text of the same role directly. -/
def follows (lastMessage message : Message) : Bool :=
  merges lastMessage message && lastMessage.parseToolCalls.isEmpty

def Message.withText (message : Message) (text : String) : Message :=
  { message.copied with content := some (.string text) }

/-- Two texts joined by a space. -/
def Message.joined (lastMessage message : Message) : Message :=
  message.withText (lastMessage.stringContent ++ " " ++ message.stringContent)

/-- The messages after one that has been read, where some are joined to the one before. -/
def mergeFrom (joins : Message → Message → Bool) (join : Message → Message → Message)
    (lastMessage : Message) : List Message → List Message
  | [] => [lastMessage]
  | message :: messages =>
    if joins lastMessage message then mergeFrom joins join (join lastMessage message) messages
    else lastMessage :: mergeFrom joins join message.plain messages

/-- Consecutive texts are joined, beginning with a message that has been read. -/
def joinFrom : Message → List Message → List Message := mergeFrom follows joined

/-- The messages with consecutive texts of one role joined by a space. -/
def joinTexts : List Message → List Message
  | [] => []
  | message :: messages => joinFrom message.plain messages

def ToolCallRequest.block (codec : ClaudeCodec ω) (toolCall : ToolCallRequest) : ClaudeBlock ω :=
  .toolUse toolCall.id toolCall.name ((codec.unmarshal toolCall.arguments).getD codec.empty)

def Message.blocks (codec : ClaudeCodec ω) (message : Message) : List (ClaudeBlock ω) :=
  if message.role = "tool" then [.toolResult message.toolCallId message.content]
  else message.systemTexts.map .text ++ message.parseToolCalls.map (ToolCallRequest.block codec)

def ClaudeTurn.blocks (turn : ClaudeTurn ω) : List (ClaudeBlock ω) := turn.content.toBlocks

def ClaudeBlock.isResult : ClaudeBlock ω → Bool
  | .toolResult _ _ => true
  | .text _ | .file _ _ _ | .toolUse _ _ _ => false

/-- The placeholder in front of a conversation that the user does not begin. -/
def leading (spoken : List Message) : List (ClaudeBlock ω) :=
  if spoken.head?.any (·.role ≠ "user") then [.text "..."] else []

/-- The result keeps the conversation: the blocks are those of the joined messages, one after
the other, the system field has the texts of the system messages, the answers of tools are in
messages of the user, and the user begins. -/
structure KeepsMessages (codec : ClaudeCodec ω) (messages : List Message)
    (result : ClaudePass ω) : Prop where
  blocks : result.claudeMessages.flatMap ClaudeTurn.blocks =
    leading ((joinTexts messages).filter (·.role ≠ "system")) ++
      ((joinTexts messages).filter (·.role ≠ "system")).flatMap (blocks codec)
  system : result.systemMessages =
    ((joinTexts messages).filter (·.role = "system")).flatMap systemTexts
  results : ∀ turn ∈ result.claudeMessages, ∀ block ∈ turn.blocks, block.isResult →
    turn.role = "user"
  first : ∀ turn ∈ result.claudeMessages.head?, turn.role = "user"

/-! ## The first pass merges -/

/-- What the first pass makes of two texts. -/
def Message.merged (lastMessage message : Message) : Message :=
  (message.withText (trimQuotes
    (lastMessage.stringContent ++ " " ++ message.stringContent))).orPlaceholder

/-- The first pass, beginning with a message that has been read. -/
def formatFrom : Message → List Message → List Message := mergeFrom merges merged

theorem foldl_formatMessage (front : List Message) (lastMessage : Message)
    (messages : List Message) :
    (messages.foldl formatMessage (front ++ [lastMessage], lastMessage)).1 =
      front ++ formatFrom lastMessage messages := by
  induction messages generalizing front lastMessage with
  | nil => rfl
  | cons message messages ih =>
    rw [foldl_cons, formatFrom, mergeFrom]
    by_cases merge : merges lastMessage message = true
    · have step : formatMessage (front ++ [lastMessage], lastMessage) message =
          (front ++ [lastMessage.merged message], lastMessage.merged message) := by
        simp [formatMessage, merge, merged, withText]
      rw [step, ih, if_pos merge, formatFrom]
    · have step : formatMessage (front ++ [lastMessage], lastMessage) message =
          ((front ++ [lastMessage]) ++ [message.plain], message.plain) := by
        simp [formatMessage, merge, plain]
      rw [step, ih, if_neg merge, append_assoc, singleton_append, formatFrom]

theorem formatMessages_cons (message : Message) (messages : List Message) :
    formatMessages (message :: messages) = formatFrom message.plain messages := by
  have step : formatMessage ([], { role := "tool" }) message =
      ([] ++ [message.plain], message.plain) := by
    simp [formatMessage, merges, plain]
  rw [formatMessages, foldl_cons, step, foldl_formatMessage, nil_append]

/-! ## The second pass keeps everything -/

def Message.TextOnly (message : Message) : Prop :=
  ∀ part ∈ message.parseContent, part.textOf.isSome

def Message.Settled (message : Message) : Prop :=
  message.isStringContent → message.stringContent ≠ ""

instance (message : Message) : Decidable message.TextOnly :=
  inferInstanceAs (Decidable (∀ part ∈ message.parseContent, _))

/-- A message that the second pass takes as it is. -/
structure Ready (message : Message) : Prop where
  settled : message.Settled
  textOnly : message.TextOnly
  calls : message.role ≠ "assistant" → message.parseToolCalls = []

section Second

variable (codec : ClaudeCodec ω)
variable {claudeMessages : List (ClaudeTurn ω)} {turn : ClaudeTurn ω} {pass : ClaudePass ω}

theorem convertToolCall_eq (toolCall : ToolCallRequest) :
    convertToolCall codec toolCall = toolCall.block codec := by
  rw [convertToolCall, ToolCallRequest.block, ClaudeCodec.inputObj]
  split
  next empty => rw [empty, codec.unmarshal_empty, Option.getD_none]
  next => rfl

theorem mapM_convertPart {parts : List MediaContent} (texts : ∀ part ∈ parts, part.textOf.isSome) :
    ∃ blocks, parts.mapM (convertPart codec) = .ok blocks ∧
      blocks.flatten = ((parts.filterMap MediaContent.textOf).filter (· ≠ "")).map .text := by
  induction parts with
  | nil => exact ⟨[], rfl, rfl⟩
  | cons part parts ih =>
    obtain ⟨isText, later⟩ := forall_mem_cons.mp texts
    obtain ⟨text, said⟩ := Option.isSome_iff_exists.mp isText
    obtain ⟨blocks, converted, flat⟩ := ih later
    refine ⟨(if text ≠ "" then [.text text] else []) :: blocks, ?_, ?_⟩
    · rw [mapM_cons, converted]
      simp [convertPart, said, bind, Except.bind, pure, Except.pure]
    · rw [flatten_cons, flat, filterMap_cons_some said]
      by_cases empty : text = ""
      · simp [empty]
      · simp [empty]

theorem systemTexts_of_string (isString : message.isStringContent = true) :
    message.systemTexts = [message.stringContent].filter (· ≠ "") := by
  rw [isStringContent] at isString
  split at isString
  next text content =>
    simp [systemTexts, parseContent, stringContent, content, MediaContent.textOf]
  next => cases isString

theorem turnContent_eq (role : message.role ≠ "tool") (ready : Ready message) :
    ∃ content, turnContent codec message = .ok content ∧
      content.toBlocks = message.blocks codec := by
  rw [blocks, if_neg role]
  unfold turnContent
  split
  next plain =>
    refine ⟨_, rfl, ?_⟩
    obtain ⟨isString, noCalls⟩ := plain
    simp [systemTexts_of_string isString, ready.settled isString, parseToolCalls, noCalls,
      TurnContent.toBlocks]
  obtain ⟨blocks, converted, flat⟩ := mapM_convertPart codec ready.textOnly
  refine ⟨.blocks (blocks.flatten ++ message.parseToolCalls.map (convertToolCall codec)), ?_, ?_⟩
  · rw [converted]
    rfl
  · rw [flat, map_congr_left fun toolCall _ => convertToolCall_eq codec toolCall]
    rfl

/-- The messages of Claude are well formed: the answers of tools are in messages of the user,
and the user begins. -/
structure Proper (claudeMessages : List (ClaudeTurn ω)) : Prop where
  results : ∀ turn ∈ claudeMessages, ∀ block ∈ turn.blocks, block.isResult → turn.role = "user"
  first : ∀ turn ∈ claudeMessages.head?, turn.role = "user"

theorem blocks_not_result (role : message.role ≠ "tool") :
    ∀ block ∈ message.blocks codec, block.isResult = false := by
  rw [blocks, if_neg role]
  exact forall_mem_append.mpr
    ⟨forall_mem_map.mpr fun _ _ => rfl, forall_mem_map.mpr fun _ _ => rfl⟩

theorem Proper.append (proper : Proper claudeMessages) (begun : claudeMessages ≠ [])
    (results : ∀ block ∈ turn.blocks, block.isResult → turn.role = "user") :
    Proper (claudeMessages ++ [turn]) where
  results := forall_mem_append.mpr ⟨proper.results, forall_mem_singleton.mpr results⟩
  first := by
    rw [head?_append_of_ne_nil _ begun]
    exact proper.first

theorem Proper.user (user : turn.role = "user") : Proper [turn] where
  results := fun other member _ _ _ => by rw [mem_singleton.mp member, user]
  first := fun other head => by
    cases head
    exact user

theorem appendResult_eq (proper : Proper claudeMessages) (message : Message) :
    Proper (appendResult claudeMessages message) ∧ appendResult claudeMessages message ≠ [] ∧
      (appendResult claudeMessages message).flatMap ClaudeTurn.blocks =
        claudeMessages.flatMap ClaudeTurn.blocks ++
          [.toolResult message.toolCallId message.content] := by
  let result : ClaudeTurn ω := ⟨"user", .blocks [.toolResult message.toolCallId message.content]⟩
  cases last : claudeMessages.getLast? with
  | none =>
    have appended : appendResult claudeMessages message = claudeMessages ++ [result] := by
      simp [appendResult, last, result]
    rw [appended, getLast?_eq_none_iff.mp last]
    exact ⟨Proper.user rfl, cons_ne_nil _ _, rfl⟩
  | some turn =>
    obtain ⟨front, rfl⟩ := getLast?_eq_some_iff.mp last
    by_cases user : turn.role = "user"
    · let longer : ClaudeTurn ω := ⟨turn.role,
        .blocks (turn.content.toBlocks ++ [.toolResult message.toolCallId message.content])⟩
      have appended : appendResult (front ++ [turn]) message = front ++ [longer] := by
        simp [appendResult, user, longer]
      rw [appended]
      refine ⟨?_, by simp, ?_⟩
      · cases front with
        | nil => exact Proper.user user
        | cons head front =>
          have before : Proper (head :: front) :=
            ⟨fun other member => proper.results other (mem_append_left _ member),
              fun other first => proper.first other first⟩
          exact @Proper.append _ _ longer before (cons_ne_nil _ _) fun _ _ _ => user
      · rw [flatMap_append, flatMap_append, flatMap_singleton,
          flatMap_singleton, append_assoc]
        rfl
    · have appended : appendResult (front ++ [turn]) message = (front ++ [turn]) ++ [result] := by
        simp [appendResult, user, result]
      rw [appended]
      refine ⟨?_, by simp, ?_⟩
      · exact proper.append (by simp) fun _ _ _ => rfl
      · exact flatMap_append

def spoken (messages : List Message) : List Message := messages.filter (·.role ≠ "system")

theorem spoken_system (system : message.role = "system") (messages : List Message) :
    spoken (message :: messages) = spoken messages := by
  simp [spoken, system]

theorem spoken_cons (other : message.role ≠ "system") (messages : List Message) :
    spoken (message :: messages) = message :: spoken messages := by
  simp [spoken, other]

theorem convertFormatted_eq (proper : Proper pass.claudeMessages)
    (fresh : pass.isFirstMessage = pass.claudeMessages.isEmpty) (other : message.role ≠ "system")
    (ready : Ready message) :
    ∃ next, convertFormatted codec pass message = .ok next ∧ Proper next.claudeMessages ∧
      next.isFirstMessage = false ∧ next.claudeMessages ≠ [] ∧
      next.claudeMessages.flatMap ClaudeTurn.blocks =
        pass.claudeMessages.flatMap ClaudeTurn.blocks ++
          ((if pass.isFirstMessage then leading [message] else []) ++ message.blocks codec) ∧
      next.systemMessages = pass.systemMessages := by
  -- the leading message comes first if it is needed
  have led : ∃ turns, (if pass.isFirstMessage ∧ message.role ≠ "user" then
        pass.claudeMessages ++ [leadingTurn] else pass.claudeMessages) = turns ∧ Proper turns ∧
      (turns = [] → message.role = "user") ∧
      turns.flatMap ClaudeTurn.blocks = pass.claudeMessages.flatMap ClaudeTurn.blocks ++
        if pass.isFirstMessage then leading [message] else [] := by
    refine ⟨_, rfl, ?_⟩
    by_cases user : message.role = "user"
    · simp [user, leading, proper]
    cases first : pass.isFirstMessage with
    | false =>
      rw [first, eq_comm, isEmpty_eq_false_iff] at fresh
      simp [proper, fresh]
    | true =>
      rw [first, eq_comm, List.isEmpty_iff] at fresh
      simp only [fresh, user, ne_eq, not_false_eq_true, and_self, if_true, nil_append]
      refine ⟨Proper.user rfl, nofun, ?_⟩
      simp [leading, user, leadingTurn, ClaudeTurn.blocks, TurnContent.toBlocks]
  obtain ⟨turns, turnsEq, properTurns, begun, blocks⟩ := led
  simp only [convertFormatted, if_neg other, turnsEq]
  by_cases tool : message.role = "tool"
  · obtain ⟨properNext, some, appended⟩ := appendResult_eq properTurns message
    rw [if_pos tool]
    refine ⟨_, rfl, properNext, rfl, some, ?_, rfl⟩
    rw [appended, blocks, Message.blocks, if_pos tool, append_assoc]
  · obtain ⟨content, converted, toBlocks⟩ := turnContent_eq codec tool ready
    rw [if_neg tool, converted]
    refine ⟨_, rfl, ?_, rfl, by simp, ?_, rfl⟩
    · have plain : ∀ block ∈ (ClaudeTurn.mk message.role content).blocks, block.isResult →
          message.role = "user" := by
        intro block member isResult
        rw [ClaudeTurn.blocks, toBlocks] at member
        rw [blocks_not_result codec tool block member] at isResult
        cases isResult
      by_cases none : turns = []
      · rw [none]
        exact Proper.user (begun none)
      · exact properTurns.append none plain
    · rw [flatMap_append, flatMap_singleton, blocks, ClaudeTurn.blocks, toBlocks,
        append_assoc]

theorem foldlM_convertFormatted (proper : Proper pass.claudeMessages)
    (fresh : pass.isFirstMessage = pass.claudeMessages.isEmpty)
    (ready : ∀ message ∈ messages, Ready message) :
    ∃ result, messages.foldlM (convertFormatted codec) pass = .ok result ∧
      Proper result.claudeMessages ∧ result.claudeMessages.flatMap ClaudeTurn.blocks =
        pass.claudeMessages.flatMap ClaudeTurn.blocks ++
          ((if pass.isFirstMessage then leading (spoken messages) else []) ++
            (spoken messages).flatMap (blocks codec)) ∧
      result.systemMessages = pass.systemMessages ++
        (messages.filter (·.role = "system")).flatMap systemTexts := by
  induction messages generalizing pass with
  | nil =>
    refine ⟨pass, rfl, proper, ?_, ?_⟩
    · simp [spoken, leading]
    · simp
  | cons message messages ih =>
    obtain ⟨readyHere, readyLater⟩ := forall_mem_cons.mp ready
    rw [foldlM_cons]
    by_cases system : message.role = "system"
    · have step : convertFormatted codec pass message = .ok
          { pass with systemMessages := pass.systemMessages ++ message.systemTexts } :=
        if_pos system
      rw [step, spoken_system system]
      obtain ⟨result, run, properResult, blocks, texts⟩ := @ih
        { pass with systemMessages := pass.systemMessages ++ message.systemTexts }
        proper fresh readyLater
      refine ⟨result, run, properResult, blocks, ?_⟩
      rw [texts]
      simp [system, append_assoc]
    · obtain ⟨next, step, properNext, notFirst, some, here, texts⟩ :=
        convertFormatted_eq codec proper fresh system readyHere
      have freshNext : next.isFirstMessage = next.claudeMessages.isEmpty := by
        rw [notFirst, eq_comm, isEmpty_eq_false_iff]
        exact some
      obtain ⟨result, run, properResult, blocks, textsLater⟩ :=
        ih properNext freshNext readyLater
      rw [step]
      refine ⟨result, run, properResult, ?_, ?_⟩
      · rw [blocks, here, notFirst, spoken_cons system]
        simp [leading, append_assoc]
      · rw [textsLater, texts]
        simp [system]

end Second

/-! ## Quotation marks -/

/-- The text begins with a quotation mark. -/
def startsQuoted (text : String) : Bool := text.toList.head? = some '"'

/-- The text ends with a quotation mark. -/
def endsQuoted (text : String) : Bool := text.toList.getLast? = some '"'

theorem toList_spaced (first second : String) :
    (first ++ " " ++ second).toList = first.toList ++ ' ' :: second.toList := by
  simp

theorem space_mem_trimQuotes (first second : String) :
    ' ' ∈ (trimQuotes (first ++ " " ++ second)).toList := by
  rw [trimQuotes, String.toList_ofList, toList_spaced]
  have kept : ∀ text : List Char, ' ' ∈ text → ' ' ∈ text.dropWhile (· = '"') := by
    intro text member
    rw [← @List.takeWhile_append_dropWhile _ (· = '"') text] at member
    cases mem_append.mp member with
    | inl taken => exact absurd (mem_takeWhile_imp taken) (by decide)
    | inr dropped => exact dropped
  rw [rdropWhile, mem_reverse]
  apply kept
  rw [mem_reverse]
  apply kept
  exact mem_append_right _ mem_cons_self

theorem length_trimQuotes_le (text : String) : (trimQuotes text).length ≤ text.length := by
  rw [trimQuotes, String.length_ofList, ← String.length_toList]
  exact Nat.le_trans (List.rdropWhile_prefix _ _).length_le (dropWhile_suffix _).length_le

theorem dropWhile_quote_iff {text : List Char} :
    text.dropWhile (· = '"') = text ↔ text.head? ≠ some '"' := by
  cases text <;> simp

theorem head?_spaced {first : String} (some : first ≠ "") (rest : List Char) :
    (first.toList ++ rest).head? ≠ .some '"' ↔ startsQuoted first = false := by
  rw [head?_append_of_ne_nil _ (mt String.toList_eq_nil_iff.mp some)]
  simp [startsQuoted]

theorem getLast?_spaced (front : List Char) (second : String) :
    (front ++ ' ' :: second.toList).getLast? ≠ .some '"' ↔ endsQuoted second = false := by
  rw [getLast?_append, getLast?_cons, endsQuoted]
  cases second.toList.getLast? with
  | none | some => simp

/-- A text that keeps its length has no quotation mark at its ends. -/
theorem trimQuotes_eq_self (same : (trimQuotes text).length = text.length) :
    trimQuotes text = text ∧ text.toList.head? ≠ some '"' ∧ text.toList.getLast? ≠ some '"' := by
  rw [trimQuotes, String.length_ofList, ← String.length_toList] at same
  have inner := (dropWhile_suffix (· = '"') (l := text.toList)).length_le
  have outer := rdropWhile_prefix (· = '"') (text.toList.dropWhile (· = '"'))
  have unchanged := (dropWhile_suffix _).eq_of_length
    (Nat.le_antisymm inner (same ▸ outer.length_le))
  refine ⟨?_, dropWhile_quote_iff.mp unchanged, ?_⟩
  · rw [trimQuotes, outer.eq_of_length (by rw [same, unchanged]), unchanged, String.ofList_toList]
  · rw [unchanged, rdropWhile, length_reverse,
      ← @List.length_reverse _ text.toList] at same
    rw [← head?_reverse]
    exact dropWhile_quote_iff.mp ((dropWhile_suffix _).eq_of_length same)

/-! ## The merged messages -/

namespace Message

def calls (message : Message) : List ToolCallRequest :=
  if message.role = "assistant" then message.parseToolCalls else []

def speaks (message : Message) : Bool := message.content = none || message.isStringContent

end Message

/-- The message is a text after a text of the same role. -/
def continues (lastMessage message : Message) : Bool :=
  lastMessage.role = message.role && lastMessage.role ≠ "tool" &&
    (lastMessage.speaks && message.isStringContent)

/-- The messages after a message can be joined to it without loss: a text that is continued
comes without tool calls, the first one does not begin with a quotation mark, and the others
do not end with one. -/
def Joinable (lastMessage : Message) (quoted : Bool) : List Message → Prop
  | [] => True
  | message :: messages =>
    if continues lastMessage message then
      (lastMessage.calls = [] ∧ quoted = false ∧ endsQuoted message.stringContent = false) ∧
        Joinable message false messages
    else Joinable message (startsQuoted message.stringContent) messages

/-- What both passes remember of the last message. -/
structure Reads (original lastMessage : Message) : Prop where
  role : lastMessage.role = original.role
  isString : lastMessage.isStringContent = original.speaks
  calls : lastMessage.parseToolCalls = original.calls
  settled : lastMessage.Settled

theorem copied_parseToolCalls (message : Message) :
    message.copied.parseToolCalls = message.calls := by
  simp only [copied, parseToolCalls, calls]
  split
  · rfl
  · rfl

theorem withText_reads (isString : message.isStringContent = true) (some : text ≠ "") :
    Reads message (message.withText text) where
  role := rfl
  isString := by
    rw [speaks, isString, Bool.or_true]
    rfl
  calls := copied_parseToolCalls message
  settled := fun _ => some

theorem plain_cases (message : Message) :
    (message.plain = message.withText "..." ∧ message.speaks = true ∧
      message.stringContent = "") ∨
    (message.plain = message.copied ∧ message.speaks = message.isStringContent ∧
      message.Settled) := by
  rw [plain, orPlaceholder]
  split
  next empty =>
    refine .inl ⟨rfl, ?_⟩
    cases empty with
    | inl missing =>
      have content : message.content = none := missing
      simp [speaks, stringContent, content]
    | inr string =>
      obtain ⟨isString, empty⟩ : message.isStringContent = true ∧ message.stringContent = "" :=
        string
      exact ⟨by simp [speaks, isString], empty⟩
  next some =>
    obtain ⟨present, settled⟩ := not_or.mp some
    refine .inr ⟨rfl, ?_, fun isString empty => settled ⟨isString, empty⟩⟩
    simp [speaks, show message.content ≠ none from present]

theorem plain_reads (message : Message) : Reads message message.plain := by
  obtain ⟨plain, speaks, -⟩ | ⟨plain, speaks, settled⟩ := plain_cases message
  · rw [plain]
    exact ⟨rfl, speaks.symm, copied_parseToolCalls message, fun _ => show "..." ≠ "" by decide⟩
  · rw [plain]
    exact ⟨rfl, speaks.symm, copied_parseToolCalls message, settled⟩

theorem Reads.merges (reads : Reads original lastMessage) (message : Message) :
    merges lastMessage message = continues original message := by
  rw [Relay.merges, continues, reads.role, reads.isString]

theorem spaced_ne_empty (first second : String) : first ++ " " ++ second ≠ "" := by
  intro empty
  have chars := congrArg String.toList empty
  simp at chars

theorem joined_reads (lastMessage : Message) (isString : message.isStringContent = true) :
    Reads message (lastMessage.joined message) :=
  withText_reads isString (spaced_ne_empty _ _)

theorem trimmed_ne_empty (first second : String) : trimQuotes (first ++ " " ++ second) ≠ "" := by
  intro empty
  have space := space_mem_trimQuotes first second
  rw [empty] at space
  simp at space

theorem merged_eq (lastMessage message : Message) :
    lastMessage.merged message = message.withText (trimQuotes
      (lastMessage.stringContent ++ " " ++ message.stringContent)) :=
  if_neg fun placed => placed.elim nofun fun both => trimmed_ne_empty _ _ both.2

theorem merged_reads (lastMessage : Message) (isString : message.isStringContent = true) :
    Reads message (lastMessage.merged message) := by
  rw [merged_eq]
  exact withText_reads isString (trimmed_ne_empty _ _)

/-! ## What is lost -/

theorem Reads.ready (reads : Reads original lastMessage) (textOnly : lastMessage.TextOnly) :
    Ready lastMessage where
  settled := reads.settled
  textOnly := textOnly
  calls := fun other => by
    rw [reads.calls, Message.calls, if_neg (reads.role ▸ other)]

theorem withText_textOnly (message : Message) (text : String) :
    (message.withText text).TextOnly := by
  intro part member
  rw [mem_singleton.mp member]
  rfl

theorem plain_textOnly (textOnly : message.TextOnly) :
    message.plain.TextOnly := by
  obtain ⟨plain, -⟩ | ⟨plain, -⟩ := plain_cases message
  · rw [plain]
    exact withText_textOnly message "..."
  · rw [plain]
    exact textOnly

section Merging

variable {joins : Message → Message → Bool} {join : Message → Message → Message}

theorem mergeFrom_ready (last : Ready lastMessage)
    (textOnly : ∀ message ∈ messages, message.TextOnly)
    (joined : ∀ first second, joins first second → Ready (join first second)) :
    ∀ message ∈ mergeFrom joins join lastMessage messages, Ready message := by
  induction messages generalizing lastMessage with
  | nil => exact forall_mem_singleton.mpr last
  | cons message messages ih =>
    obtain ⟨textHere, textLater⟩ := forall_mem_cons.mp textOnly
    rw [mergeFrom]
    split
    next joining => exact ih (joined _ _ joining) textLater
    have plain := (plain_reads message).ready (plain_textOnly textHere)
    exact forall_mem_cons.mpr ⟨last, ih plain textLater⟩

theorem head?_mergeFrom (joined : ∀ first second, joins first second →
      first.role = second.role ∧ (join first second).role = second.role) :
    (spoken (mergeFrom joins join lastMessage messages)).head?.map role =
      (spoken (lastMessage :: messages)).head?.map role := by
  induction messages generalizing lastMessage with
  | nil => rfl
  | cons message messages ih =>
    rw [mergeFrom]
    split
    next joining =>
      obtain ⟨same, kept⟩ := joined _ _ joining
      rw [ih]
      by_cases system : message.role = "system"
      · rw [spoken_system (kept.trans system), spoken_system (same.trans system),
          spoken_system system]
      · rw [spoken_cons (kept ▸ system), spoken_cons (same ▸ system)]
        simp [kept, same]
    by_cases system : lastMessage.role = "system"
    · have role : message.plain.role = message.role := (plain_reads message).role
      rw [spoken_system system, spoken_system system, ih]
      by_cases again : message.role = "system"
      · rw [spoken_system again, spoken_system (role.trans again)]
      · rw [spoken_cons again, spoken_cons (role ▸ again)]
        simp [role]
    · rw [spoken_cons system, spoken_cons system]
      rfl

end Merging

theorem merges_iff : merges lastMessage message = true ↔
    (lastMessage.role = message.role ∧ lastMessage.role ≠ "tool") ∧
      lastMessage.isStringContent = true ∧ message.isStringContent = true := by
  simp [merges]

theorem formatFrom_ready (textOnly : ∀ other ∈ message :: messages, other.TextOnly) :
    ∀ other ∈ formatFrom message.plain messages, Ready other := by
  obtain ⟨here, later⟩ := forall_mem_cons.mp textOnly
  apply mergeFrom_ready ((plain_reads message).ready (plain_textOnly here)) later
  intro first second merge
  apply (merged_reads first (merges_iff.mp merge).2.2).ready
  rw [merged_eq]
  exact withText_textOnly _ _

theorem merges_of_follows (follow : follows first second = true) : merges first second = true := by
  rw [follows, Bool.and_eq_true] at follow
  exact follow.1

theorem joinFrom_ready (textOnly : ∀ other ∈ message :: messages, other.TextOnly) :
    ∀ other ∈ joinFrom message.plain messages, Ready other := by
  obtain ⟨here, later⟩ := forall_mem_cons.mp textOnly
  apply mergeFrom_ready ((plain_reads message).ready (plain_textOnly here)) later
  intro first second follow
  exact (joined_reads first (merges_iff.mp (merges_of_follows follow)).2.2).ready
    (withText_textOnly _ _)

/-- Both ways begin with the same placeholder, or none. -/
theorem leading_eq (message : Message) (messages : List Message) :
    (leading (spoken (formatFrom message.plain messages)) : List (ClaudeBlock ω)) =
      leading (spoken (joinFrom message.plain messages)) := by
  have same : (spoken (formatFrom message.plain messages)).head?.map role =
      (spoken (joinFrom message.plain messages)).head?.map role := by
    rw [formatFrom, joinFrom, head?_mergeFrom, head?_mergeFrom]
    · intro first second follow
      exact ⟨(merges_iff.mp (merges_of_follows follow)).1.1, rfl⟩
    · intro first second merge
      exact ⟨(merges_iff.mp merge).1.1, by rw [merged_eq]; rfl⟩
  have byRole : ∀ list : List Message,
      list.head?.any (·.role ≠ "user") = (list.head?.map role).any (· ≠ "user") := by
    intro list
    cases list.head? with
    | none | some => rfl
  simp only [leading, byRole, same]

/-- The number of characters of the texts of a message that is not the answer of a tool. -/
def Message.textSize (message : Message) : Nat :=
  if message.role = "tool" then 0 else (message.systemTexts.map String.length).sum

/-- What a message weighs: its characters, and two for each tool call, so that a tool call
weighs more than the space between two texts. -/
def Message.weight (message : Message) : Nat :=
  message.textSize + 2 * message.parseToolCalls.length

/-- What the messages weigh. -/
def weight (messages : List Message) : Nat := (messages.map Message.weight).sum

/-- What a block weighs. -/
def ClaudeBlock.weight : ClaudeBlock ω → Nat
  | .text said => said.length
  | .toolUse _ _ _ => 2
  | .file _ _ _ | .toolResult _ _ => 0

theorem weight_blocks (codec : ClaudeCodec ω) (ready : Ready message) :
    ((message.blocks codec).map ClaudeBlock.weight).sum = message.weight := by
  rw [Message.blocks, Message.weight, Message.textSize]
  split
  next tool =>
    rw [ready.calls (by rw [tool]; decide)]
    rfl
  have two : (ClaudeBlock.weight ∘ ToolCallRequest.block codec) = fun _ => 2 := rfl
  rw [map_append, sum_append, map_map, map_map, two, map_const',
    sum_replicate_nat, Nat.mul_comm]
  rfl

theorem weight_eq (codec : ClaudeCodec ω) (ready : ∀ message ∈ messages, Ready message) :
    (((spoken messages).flatMap (blocks codec)).map ClaudeBlock.weight).sum +
        (((messages.filter (·.role = "system")).flatMap systemTexts).map
          String.length).sum = weight messages := by
  induction messages with
  | nil => rfl
  | cons message messages ih =>
    obtain ⟨here, later⟩ := forall_mem_cons.mp ready
    rw [weight, map_cons, sum_cons, ← weight, ← ih later]
    by_cases system : message.role = "system"
    · have heavy : message.weight = (message.systemTexts.map String.length).sum := by
        rw [Message.weight, textSize, if_neg (by rw [system]; decide),
          here.calls (by rw [system]; decide), length_nil, Nat.mul_zero, Nat.add_zero]
      rw [spoken_system system, filter_cons_of_pos (by simpa using system),
        flatMap_cons, map_append, sum_append, heavy]
      omega
    · rw [spoken_cons system, filter_cons_of_neg (by simpa using system),
        flatMap_cons, map_append, sum_append, weight_blocks codec here,
        Nat.add_assoc]

theorem textSize_of_string (role : message.role ≠ "tool")
    (isString : message.isStringContent = true) :
    message.textSize = message.stringContent.length := by
  rw [textSize, if_neg role, systemTexts_of_string isString]
  by_cases empty : message.stringContent = ""
  · simp [empty]
  · simp [empty]

theorem length_spaced (first second : String) :
    (first ++ " " ++ second).length = first.length + 1 + second.length := by
  rw [String.length_append, String.length_append]
  rfl

theorem withText_textSize (role : message.role ≠ "tool") (text : String) :
    (message.withText text).textSize = text.length :=
  textSize_of_string role rfl

theorem length_le_plain (role : message.role ≠ "tool") (isString : message.isStringContent = true) :
    message.stringContent.length ≤ message.plain.textSize := by
  obtain ⟨-, -, empty⟩ | ⟨plain, -⟩ := plain_cases message
  · rw [empty]
    exact Nat.zero_le _
  · rw [plain]
    exact Nat.le_of_eq (@textSize_of_string message.copied role isString).symm

/-- The three ways in which both passes go on. -/
theorem continues_cases (format : Reads original first) (join : Reads original second)
    (messages : List Message) :
    (continues original message = false ∧
      formatFrom first (message :: messages) = first :: formatFrom message.plain messages ∧
      joinFrom second (message :: messages) = second :: joinFrom message.plain messages) ∨
    (continues original message = true ∧
      formatFrom first (message :: messages) = formatFrom (first.merged message) messages ∧
      ((original.calls = [] ∧
          joinFrom second (message :: messages) = joinFrom (second.joined message) messages) ∨
        (original.calls ≠ [] ∧
          joinFrom second (message :: messages) = second :: joinFrom message.plain messages))) := by
  simp only [formatFrom, joinFrom, mergeFrom, follows, format.merges, join.merges, join.calls]
  cases continued : continues original message with
  | false => simp
  | true =>
    by_cases none : original.calls = []
    · simp [none]
    · simp [none]

theorem weight_cons (message : Message) (messages : List Message) :
    weight (message :: messages) = message.weight + weight messages := rfl

theorem weight_last (message : Message) : weight [message] = message.weight := rfl

theorem continues_iff : continues original message = true ↔
    (original.role = message.role ∧ original.role ≠ "tool") ∧
      original.speaks = true ∧ message.isStringContent = true := by
  simp [continues]

section

variable (continued : continues original message = true)

include continued

theorem isString_of_continues : message.isStringContent = true := (continues_iff.mp continued).2.2

theorem textSize_of_continues (reads : Reads original first) :
    first.textSize = first.stringContent.length := by
  obtain ⟨⟨-, role⟩, speaks, -⟩ := continues_iff.mp continued
  exact textSize_of_string (reads.role ▸ role) (reads.isString.trans speaks)

theorem Reads.nonempty (reads : Reads original first) : first.stringContent ≠ "" :=
  reads.settled (reads.isString.trans (continues_iff.mp continued).2.1)

theorem message_role : message.role ≠ "tool" := by
  obtain ⟨⟨same, role⟩, -, -⟩ := continues_iff.mp continued
  exact same ▸ role

theorem merged_textSize (reads : Reads original first) :
    (first.merged message).textSize ≤ first.textSize + 1 + message.stringContent.length := by
  rw [merged_eq, withText_textSize (message_role continued), textSize_of_continues continued reads,
    ← length_spaced]
  exact length_trimQuotes_le _

theorem joined_textSize (reads : Reads original second) :
    (second.joined message).textSize = second.textSize + 1 + message.stringContent.length := by
  rw [joined, withText_textSize (message_role continued),
    textSize_of_continues continued reads, length_spaced]

theorem weight_lost (format : Reads original first) (join : Reads original second)
    (lost : original.calls ≠ [])
    (later : weight (formatFrom (first.merged message) messages) + message.plain.textSize ≤
      weight (joinFrom message.plain messages) + (first.merged message).textSize) :
    weight (formatFrom (first.merged message) messages) + second.textSize <
      weight (second :: joinFrom message.plain messages) + first.textSize := by
  have size := merged_textSize continued format
  have longer := length_le_plain (message_role continued) (isString_of_continues continued)
  have some := length_pos_iff.mpr lost
  rw [weight_cons, Message.weight, join.calls]
  omega

end

/-- The first pass weighs no more than the joined messages: a merged text loses the quotation
marks at its ends, and the tool calls of a message that is continued are gone. -/
theorem weight_formatFrom_le (format : Reads original first) (join : Reads original second)
    (messages : List Message) :
    weight (formatFrom first messages) + second.textSize ≤
      weight (joinFrom second messages) + first.textSize := by
  have calls : first.parseToolCalls = second.parseToolCalls := by rw [format.calls, join.calls]
  induction messages generalizing original first second with
  | nil =>
    simp only [formatFrom, joinFrom, mergeFrom, weight_last, Message.weight, calls]
    omega
  | cons message messages ih =>
    have plain := plain_reads message
    cases continues_cases format join messages with
    | inl apart =>
      obtain ⟨-, formatEq, joinEq⟩ := apart
      have later := ih plain plain rfl
      rw [formatEq, joinEq, weight_cons, weight_cons, Message.weight, Message.weight, calls]
      omega
    | inr together =>
      obtain ⟨continued, formatEq, rest⟩ := together
      have isString := isString_of_continues continued
      have merged := merged_reads first isString
      cases rest with
      | inl free =>
        have joined := joined_reads second isString
        have later := ih merged joined (by rw [merged.calls, joined.calls])
        have size := merged_textSize continued format
        rw [joined_textSize continued join] at later
        rw [formatEq, free.2]
        omega
      | inr lost =>
        have later := ih merged plain (by rw [merged.calls, plain.calls])
        rw [formatEq, lost.2]
        exact Nat.le_of_lt (weight_lost continued format join lost.1 later)

theorem startsQuoted_spaced {first : String} (some : first ≠ "") (second : String) :
    startsQuoted (first ++ " " ++ second) = startsQuoted first := by
  rw [startsQuoted, startsQuoted, toList_spaced,
    head?_append_of_ne_nil _ (mt String.toList_eq_nil_iff.mp some)]

theorem startsQuoted_plain (message : Message) :
    startsQuoted message.plain.stringContent = startsQuoted message.stringContent := by
  obtain ⟨plain, -, empty⟩ | ⟨plain, -⟩ := plain_cases message
  · rw [plain, empty]
    exact show startsQuoted "..." = startsQuoted "" by decide
  · rw [plain]
    rfl

section

variable (reads : Reads original first)

include reads

/-- Two texts are merged without loss only where no quotation mark is at the ends. -/
theorem unquoted_of_textSize (continued : continues original message = true)
    (longer : (first.joined message).textSize ≤ (first.merged message).textSize) :
    first.merged message = first.joined message ∧
      startsQuoted first.stringContent = false ∧ endsQuoted message.stringContent = false := by
  rw [merged_eq, joined, withText_textSize (message_role continued),
    withText_textSize (message_role continued)] at longer
  obtain ⟨same, head, last⟩ := trimQuotes_eq_self
    (Nat.le_antisymm (length_trimQuotes_le _) longer)
  rw [toList_spaced] at head last
  refine ⟨?_, (head?_spaced (reads.nonempty continued) _).mp head, (getLast?_spaced _ _).mp last⟩
  rw [merged_eq, joined, same]

theorem joinable_of_weight
    (same : weight (joinFrom first messages) ≤ weight (formatFrom first messages)) :
    Joinable original (startsQuoted first.stringContent) messages := by
  induction messages generalizing original first with
  | nil => exact trivial
  | cons message messages ih =>
    have plain := plain_reads message
    rw [Joinable]
    cases continues_cases reads reads messages with
    | inl apart =>
      obtain ⟨separate, formatEq, joinEq⟩ := apart
      rw [formatEq, joinEq, weight_cons, weight_cons, Nat.add_le_add_iff_left] at same
      rw [separate, if_neg Bool.false_ne_true, ← startsQuoted_plain]
      exact ih plain same
    | inr together =>
      obtain ⟨continued, formatEq, rest⟩ := together
      have isString := isString_of_continues continued
      have merged := merged_reads first isString
      rw [continued, if_pos rfl]
      cases rest with
      | inl free =>
        have joined := joined_reads first isString
        have lighter := weight_formatFrom_le merged joined messages
        rw [formatEq, free.2] at same
        obtain ⟨equal, start, ending⟩ := unquoted_of_textSize reads continued (by omega)
        rw [equal] at same
        have later := ih joined same
        have started : startsQuoted (first.joined message).stringContent = false :=
          (startsQuoted_spaced (reads.nonempty continued) _).trans start
        rw [started] at later
        exact ⟨⟨free.1, start, ending⟩, later⟩
      | inr lost =>
        have lighter := weight_formatFrom_le merged plain messages
        have less := weight_lost continued reads reads lost.1 lighter
        rw [formatEq, lost.2] at same
        exact absurd same (by omega)

theorem formatFrom_eq_joinFrom
    (joinable : Joinable original (startsQuoted first.stringContent) messages) :
    formatFrom first messages = joinFrom first messages := by
  induction messages generalizing original first with
  | nil => rfl
  | cons message messages ih =>
    have plain := plain_reads message
    rw [Joinable] at joinable
    cases continues_cases reads reads messages with
    | inl apart =>
      obtain ⟨separate, formatEq, joinEq⟩ := apart
      rw [separate, if_neg Bool.false_ne_true, ← startsQuoted_plain] at joinable
      rw [formatEq, joinEq, ih plain joinable]
    | inr together =>
      obtain ⟨continued, formatEq, rest⟩ := together
      rw [continued, if_pos rfl] at joinable
      obtain ⟨⟨free, start, ending⟩, later⟩ := joinable
      have joined := joined_reads first (isString_of_continues continued)
      have started : startsQuoted (first.joined message).stringContent = false :=
        (startsQuoted_spaced (reads.nonempty continued) _).trans start
      cases rest with
      | inl kept =>
        have unquoted : first.merged message = first.joined message := by
          have head := (head?_spaced (reads.nonempty continued)
            (' ' :: message.stringContent.toList)).mpr start
          have last := (getLast?_spaced first.stringContent.toList _).mpr ending
          rw [← toList_spaced] at head last
          rw [← head?_reverse] at last
          rw [merged_eq, Message.joined, trimQuotes, dropWhile_quote_iff.mpr head, List.rdropWhile,
            dropWhile_quote_iff.mpr last, reverse_reverse, String.ofList_toList]
        rw [formatEq, kept.2, unquoted]
        exact ih joined (started ▸ later)
      | inr lost => exact absurd free lost.1

end

/-! ## The claimed conversion -/

/-- Consecutive texts of one role can be joined without loss. -/
def JoinsCleanly : List Message → Prop
  | [] => True
  | message :: messages => Joinable message (startsQuoted message.stringContent) messages

/-- The conversion keeps every text, every tool call and every answer of a tool in order exactly
where consecutive texts of one role can be joined without loss: a message that is continued has
no tool calls, the first text of a run does not begin with a quotation mark, and none of the
others ends with one. -/
theorem messages_kept_iff (codec : ClaudeCodec ω) {messages : List Message}
    (textOnly : ∀ message ∈ messages, message.TextOnly) :
    (∃ result, requestOpenAI2ClaudeMessage codec messages = .ok result ∧
      KeepsMessages codec messages result) ↔ JoinsCleanly messages := by
  cases messages with
  | nil =>
    refine ⟨fun _ => trivial, fun _ => ⟨{}, rfl, ?_⟩⟩
    exact ⟨rfl, rfl, nofun, nofun⟩
  | cons message messages =>
    have reads := plain_reads message
    have ready := formatFrom_ready textOnly
    obtain ⟨result, run, proper, blocks, system⟩ := @foldlM_convertFormatted
      (formatFrom message.plain messages) _ codec {} ⟨nofun, nofun⟩ rfl ready
    rw [← formatMessages_cons] at run
    rw [if_pos rfl, leading_eq] at blocks
    rw [JoinsCleanly, ← startsQuoted_plain]
    constructor
    · rintro ⟨other, otherRun, keeps⟩
      cases otherRun.symm.trans run
      apply joinable_of_weight reads
      have joinReady := joinFrom_ready textOnly
      have sameBlocks : (spoken (formatFrom message.plain messages)).flatMap
          (Message.blocks codec) =
            (spoken (joinFrom message.plain messages)).flatMap (Message.blocks codec) :=
        (append_right_inj _).mp (blocks.symm.trans keeps.blocks)
      have sameSystem : ((formatFrom message.plain messages).filter
          (·.role = "system")).flatMap systemTexts =
            ((joinFrom message.plain messages).filter
              (·.role = "system")).flatMap systemTexts :=
        system.symm.trans keeps.system
      have same : weight (joinFrom message.plain messages) =
          weight (formatFrom message.plain messages) := by
        rw [← weight_eq codec ready, ← weight_eq codec joinReady, sameBlocks, sameSystem]
      exact Nat.le_of_eq same
    · intro joinable
      rw [formatFrom_eq_joinFrom reads joinable] at blocks system
      exact ⟨result, run, blocks, system, proper.results, proper.first⟩

/-- A codec for the tests: every text but the empty one is an object, files are not read. -/
def textCodec : ClaudeCodec String where
  unmarshal := fun text => if text ≠ "" then some text else none
  unmarshal_empty := rfl
  empty := ""
  file := fun _ => .ok none

instance Joinable.decide (lastMessage : Message) (quoted : Bool) :
    (messages : List Message) → Decidable (Joinable lastMessage quoted messages)
  | [] => .isTrue trivial
  | message :: messages =>
    have := Joinable.decide message false messages
    have := Joinable.decide message (startsQuoted message.stringContent) messages
    inferInstanceAs (Decidable (if continues lastMessage message then
      (lastMessage.calls = [] ∧ quoted = false ∧ endsQuoted message.stringContent = false) ∧
        Joinable message false messages
      else Joinable message (startsQuoted message.stringContent) messages))

/-- A question, two texts of the assistant and a tool call with its answer. -/
def askedWeather : List Message :=
  [{ role := "user", content := some (.string "weather?") },
    { role := "assistant", content := some (.string "Let me") },
    { role := "assistant", content := some (.string "look"),
      toolCalls := some [⟨"call_1", "weather", "\x7b\x7d"⟩] },
    { role := "tool", content := some (.string "rain"), toolCallId := "call_1" }]

/-- The conversation about the weather is kept. -/
theorem messages_kept_weather :
    (∀ message ∈ askedWeather, message.TextOnly) ∧
      ∃ result, requestOpenAI2ClaudeMessage textCodec askedWeather = .ok result ∧
        KeepsMessages textCodec askedWeather result :=
  ⟨by decide, (messages_kept_iff textCodec (by decide)).mpr
    (show Joinable _ _ _ from by decide)⟩

def talkedOn : List Message :=
  [{ role := "assistant", content := some (.string "a"),
     toolCalls := some [⟨"call_1", "weather", "\x7b\x7d"⟩] },
    { role := "assistant", content := some (.string "b") }]

theorem messages_not_kept :
    (∀ message ∈ talkedOn, message.TextOnly) ∧
      ¬ ∃ result, requestOpenAI2ClaudeMessage textCodec talkedOn = .ok result ∧
        KeepsMessages textCodec talkedOn result := by
  refine ⟨by decide, ?_⟩
  rintro ⟨result, run, keeps⟩
  have blocks := keeps.blocks
  have done : requestOpenAI2ClaudeMessage textCodec talkedOn = .ok
      { claudeMessages := [leadingTurn, ⟨"assistant", .string "a b"⟩]
        isFirstMessage := false } := by decide
  cases run.symm.trans done
  exact absurd blocks (by decide)

end StuHelper.Relay
