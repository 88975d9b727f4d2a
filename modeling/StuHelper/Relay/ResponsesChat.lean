import StuHelper.Relay.ChatClient
import StuHelper.Relay.Responses

/-!
# What a chat client reads of a Responses stream

`OaiResponsesToChatStreamHandler` keeps the ids, the names and the arguments of the tool calls
in maps, and flags for what it has sent.  For a client of the chunks only a `Session` counts:
the text, the tool calls with the arguments so far, and the finish reason.  Every event takes
the handler and the client together one step of the session further.
-/

namespace StuHelper.Relay

open Lib ToolCallRequest ResponsesState List

/-! ## Chunks in the OpenAI format -/

def ChatAction.chunk? : ChatAction → Option StreamResponse
  | .chunk response => some response
  | .storeUsage _ => none

/-- What the client receives in the OpenAI format. -/
def openaiChunks (responseId : String) (shouldIncludeUsage : Bool) (acted : Acted) :
    List StreamResponse :=
  acted.events.filterMap ChatAction.chunk? ++ if shouldIncludeUsage && !acted.state.streamErr then
      [generateFinalUsageResponse responseId acted.state.model acted.state.usage]
    else []

/-! ## Sessions -/

/-- What a client gets to know: the text, the tool calls that have been sent, and the finish
reason; with the arguments of every call and the call of every item. -/
structure Session where
  text : String := ""
  calls : List ToolCallRequest := []
  arguments : String → String := fun _ => ""
  items : String → String := fun _ => ""
  finishReason : Option String := none
  failed : Bool := false

open Session

namespace Session

/-- A piece of a tool call, unless there is text. -/
def add (callId name delta : String) (session : Session) : Session :=
  if callId = "" ∨ session.text ≠ "" then session
  else
    { session with
      calls := upsert (fun call => call.id = callId) ⟨callId, name, delta⟩
        (extend { id := callId, name := name, arguments := delta })
        session.calls }

/-- What is known of an item. -/
def learn (item : ResponsesOutput) (session : Session) : Session :=
  { session with
    items :=
      if Text.trimSpace item.id ≠ "" ∧ item.callID ≠ "" then
        Function.update session.items (Text.trimSpace item.id) item.callID
      else session.items
    arguments :=
      if item.arguments ≠ "" then Function.update session.arguments item.callID item.arguments
      else session.arguments }

/-- An item that begins or ends. -/
def item (item : Option ResponsesOutput) (session : Session) : Session :=
  match item with
  | none => session
  | some item =>
    if item.type ≠ "function_call" then session
    else
      (session.learn item).add item.callID (Text.trimSpace item.name)
        (remainingArguments (session.arguments item.callID) item.arguments)

def callOf (session : Session) (itemId : String) : String :=
  if session.items (Text.trimSpace itemId) = "" then Text.trimSpace itemId
  else session.items (Text.trimSpace itemId)

def lengthen (callId delta : String) (session : Session) : Session :=
  { session with
    arguments := Function.update session.arguments callId (session.arguments callId ++ delta) }

def piece (itemId delta : String) (session : Session) : Session :=
  let callId := session.callOf itemId
  if callId = "" then session
  else (session.lengthen callId delta).add callId "" delta

def finish (session : Session) : Session :=
  { session with
    finishReason := session.finishReason.or
      (some (if session.calls ≠ [] ∧ session.text = "" then "tool_calls" else "stop")) }

def step (session : Session) (event : ResponsesEvent) : Session :=
  if session.failed then session
  else
    match event with
    | .outputTextDelta delta => { session with text := session.text ++ delta }
    | .outputItemAdded item | .outputItemDone item => session.item item
    | .functionCallArgumentsDelta itemId delta => session.piece itemId delta
    | .completed _ => session.finish
    | .failed => { session with failed := true }
    | .created _ | .reasoningSummaryTextDelta _ | .reasoningSummaryTextDone
    | .functionCallArgumentsDone | .other => session

def message (session : Session) : ChatMessage :=
  ⟨session.text, session.calls, session.finishReason⟩

end Session

/-! ## The handler and its client -/

def ChatReader.hear (reader : ChatReader) (action : ChatAction) : ChatReader :=
  match action with
  | .chunk response => reader.read response
  | .storeUsage _ => reader

/-- The handler and its client stand where the session stands. -/
structure Heard (state : ResponsesState) (reader : ChatReader) (session : Session) : Prop where
  text : state.outputText = session.text
  content : reader.content = session.text
  calls : reader.toolCalls = Lib.numbered 0 session.calls
  ids : state.toolCallIndexByID = session.calls.map ToolCallRequest.id
  distinct : (session.calls.map ToolCallRequest.id).Nodup
  saw : state.sawToolCall = true ↔ session.calls ≠ []
  arguments : state.toolCallArgsByID = session.arguments
  items : state.toolCallCanonicalIDByItemID = session.items
  finish : reader.finishReason = session.finishReason
  stopped : state.sentStop = session.finishReason.isSome
  failed : state.streamErr = session.failed
  /-- A name is sent as soon as it is known. -/
  named : session.text = "" → ∀ id, id ≠ "" →
    (state.toolCallNameSent id = true ↔ state.toolCallNameByID id ≠ "")
  sent : ∀ call ∈ session.calls, (state.toolCallNameSent call.id = true ↔ call.name ≠ "")
  unsent : ∀ id, id ∉ session.calls.map ToolCallRequest.id → state.toolCallNameSent id = false

/-- What the handler remembers of the session. -/
def ResponsesState.told (state : ResponsesState) :=
  (state.outputText, state.toolCallIndexByID, state.sawToolCall, state.toolCallArgsByID,
    state.toolCallCanonicalIDByItemID, state.sentStop, state.streamErr, state.toolCallNameByID,
    state.toolCallNameSent)

/-- A step after which the client stands where the session stands. -/
def Hears (reader : ChatReader) (acted : Acted) (session : Session) : Prop :=
  Heard acted.state (acted.events.foldl ChatReader.hear reader) session

namespace Heard

variable {state : ResponsesState} {reader : ChatReader} {session : Session}

theorem andThen {first : Acted} {next : ResponsesState → Acted} {last : Session}
    (here : Hears reader first session)
    (there : ∀ reader, Heard first.state reader session → Hears reader (next first.state) last) :
    Hears reader (first.andThen next) last := by
  have after := there _ here
  rw [Hears, ← foldl_append] at after
  exact after

/-- Nothing that the session is about changes. -/
theorem keep (heard : Heard state reader session) {other : ResponsesState}
    (same : other.told = state.told) : Heard other reader session := by
  simp only [told, Prod.mk.injEq] at same
  obtain ⟨text, ids, saw, arguments, items, stopped, failed, names, sent⟩ := same
  exact { heard with
    text := text.trans heard.text
    ids := ids.trans heard.ids
    saw := saw ▸ heard.saw
    arguments := arguments.trans heard.arguments
    items := items.trans heard.items
    stopped := stopped.trans heard.stopped
    failed := failed.trans heard.failed
    named := by
      rw [names, sent]
      exact heard.named
    sent := by
      rw [sent]
      exact heard.sent
    unsent := by
      rw [sent]
      exact heard.unsent }

theorem quiet (heard : Heard state reader session) {next : ResponsesState}
    (same : next.told = state.told) {id model : String} {delta : ChoiceDelta}
    (content : delta.getContentString = "") (calls : delta.toolCalls = []) :
    Hears reader ⟨[.chunk (deltaChunk id model delta)], next⟩ session := by
  have unread : reader.read (deltaChunk id model delta) = reader := by
    change { reader with content := reader.content ++ delta.getContentString
                         toolCalls := delta.toolCalls.foldl readFragment reader.toolCalls } = reader
    rw [content, calls, String.append_empty]
    rfl
  rw [Hears, foldl_cons, foldl_nil, ChatReader.hear, unread]
  exact heard.keep same

end Heard

section Handler

variable (responseId : String) {state : ResponsesState} {reader : ChatReader} {session : Session}

def ResponsesState.fragment (state : ResponsesState) (callId name argsDelta : String) :
    ToolCallResponse :=
  { index := some ((state.toolCallIndexByID ++ [callId]).idxOf callId : Nat)
    id := callId
    name := if state.toolCallNameSent callId then "" else name
    arguments := argsDelta }

variable (name argsDelta : String)

variable {callId : String}

theorem sendToolCallChunk_eq
    (named : state.toolCallNameSent callId = true ↔ state.toolCallNameByID callId ≠ "") :
    sendToolCallChunk responseId callId name argsDelta state =
      ⟨[.chunk (deltaChunk responseId state.model
          { toolCalls := [state.fragment callId name argsDelta] })],
        { state with
          toolCallIndexByID := if callId ∈ state.toolCallIndexByID then state.toolCallIndexByID
            else state.toolCallIndexByID ++ [callId]
          toolCallNameByID := if name ≠ "" then Function.update state.toolCallNameByID callId name
            else state.toolCallNameByID
          toolCallNameSent := if name ≠ "" then Function.update state.toolCallNameSent callId true
            else state.toolCallNameSent
          sawToolCall := true
          usageText :=
            state.usageText ++ (state.fragment callId name argsDelta).name ++ argsDelta }⟩ := by
  have place : (if callId ∈ state.toolCallIndexByID then state.toolCallIndexByID
      else state.toolCallIndexByID ++ [callId]).idxOf callId =
        (state.toolCallIndexByID ++ [callId]).idxOf callId := by
    split
    next member => rw [idxOf_append_of_mem member]
    next => rfl
  by_cases empty : name = ""
  · cases sent : state.toolCallNameSent callId with
    | false =>
      have unknown : state.toolCallNameByID callId = "" := by
        by_contra known
        rw [named.mpr known] at sent
        cases sent
      simp [sendToolCallChunk, fragment, place, empty, sent, unknown]
    | true => simp [sendToolCallChunk, fragment, place, empty, sent]
  · cases sent : state.toolCallNameSent callId with
    | false => simp [sendToolCallChunk, fragment, place, empty, sent]
    | true =>
      have same : Function.update state.toolCallNameSent callId true =
          state.toolCallNameSent := by rw [← sent, Function.update_eq_self]
      simp [sendToolCallChunk, fragment, place, empty, sent, same]

theorem extend_id (callId name argsDelta : String) (call : ToolCallRequest)
    (same : call.id = callId) :
    (call.extend { id := callId, name := name, arguments := argsDelta }).id = callId := by
  rw [extend, same]
  exact ite_self callId

/-- The name of an item, as the handler notes it. -/
def ResponsesState.noteName (state : ResponsesState) (callId name : String) : ResponsesState :=
  { state with
    toolCallNameByID :=
      if name ≠ "" then Function.update state.toolCallNameByID callId name
      else state.toolCallNameByID }

theorem sendToolCallDelta_noteName (some : callId ≠ "") (mute : state.outputText = "") :
    sendToolCallDelta responseId callId name argsDelta (state.noteName callId name) =
      sendToolCallDelta responseId callId name argsDelta state := by
  by_cases empty : name = ""
  · simp [noteName, empty]
  have again : (state.noteName callId name).outputText = "" := mute
  simp only [sendToolCallDelta, if_neg some, mute, again, ne_eq, not_true_eq_false, if_false]
  cases started : state.sentStart with
  | false | true =>
    simp [sendStartIfNeeded, noteName, sendToolCallChunk, Out.andThen, empty, started]

section

variable (heard : Heard state reader session)

include heard

theorem sendStartIfNeeded_heard :
    Hears reader (sendStartIfNeeded responseId state) session := by
  unfold sendStartIfNeeded
  split
  · exact heard
  · exact @Heard.quiet _ _ _ heard { state with sentStart := true } rfl responseId state.model
      { content := some "" } rfl rfl

theorem sendReasoningSummaryDelta_heard (delta : String) :
    Hears reader (sendReasoningSummaryDelta responseId delta state) session := by
  unfold sendReasoningSummaryDelta
  split
  · exact heard
  have noted : Heard { state with needsReasoningSummarySeparator := false } reader session :=
    heard.keep rfl
  apply Heard.andThen (sendStartIfNeeded_heard responseId noted)
  intro reader heard
  apply heard.quiet
  · rfl
  · rfl
  · rfl

theorem outputTextDelta_heard (delta : String) :
    Hears reader (outputTextDelta responseId delta state)
      { session with text := session.text ++ delta } := by
  apply Heard.andThen (sendStartIfNeeded_heard responseId heard)
  intro reader heard
  split
  next some =>
    have longer : session.text ++ delta ≠ "" := by
      rw [ne_eq, String.append_eq_empty_iff]
      exact fun empty => some empty.2
    exact { heard with
      text := congrArg (· ++ delta) heard.text
      content := congrArg (· ++ delta) heard.content
      named := fun empty => absurd empty longer }
  next empty =>
    rw [not_not.mp empty, String.append_empty]
    exact heard

theorem readFragment_heard {name argsDelta : String} :
    readFragment reader.toolCalls (state.fragment callId name argsDelta) =
      Lib.numbered 0 (upsert (fun call => call.id = callId) ⟨callId, name, argsDelta⟩
        (extend { id := callId, name := name, arguments := argsDelta })
        session.calls) := by
  have place : (state.fragment callId name argsDelta).index.getD 0 =
      0 + ((session.calls.map ToolCallRequest.id ++ [callId]).idxOf callId : Nat) := by
    rw [← heard.ids, Int.zero_add]
    rfl
  rw [readFragment, heard.calls]
  have found := @upsert_numbered _ _ _ ToolCallRequest.id
    ⟨callId, (state.fragment callId name argsDelta).name, argsDelta⟩
    (extend (state.fragment callId name argsDelta)) 0 session.calls _ place
  apply found.trans
  apply congrArg
  apply upsert_congr
  · intro new
    have absent : callId ∉ session.calls.map ToolCallRequest.id := by
      rintro member
      obtain ⟨call, inside, same⟩ := mem_map.mp member
      exact absurd (new call inside) (by simp [same])
    simp [fragment, heard.unsent callId absent]
  · intro call inside same
    have isCall : call.id = callId := of_decide_eq_true same
    by_cases unnamed : call.name = ""
    · have unsent : state.toolCallNameSent callId = false := by
        rw [Bool.eq_false_iff, ← isCall]
        exact fun sent => (heard.sent call inside).mp sent unnamed
      simp [extend, fragment, unsent]
    · simp [extend, fragment, unnamed]

theorem sendToolCallChunk_heard (some : callId ≠ "") (mute : session.text = "") :
    Hears reader (sendToolCallChunk responseId callId name argsDelta state)
      (session.add callId name argsDelta) := by
  have named := heard.named mute
  have fresh : session.add callId name argsDelta = { session with
      calls := upsert (fun call => call.id = callId) ⟨callId, name, argsDelta⟩
        (extend { id := callId, name := name, arguments := argsDelta })
        session.calls } := if_neg (not_or.mpr ⟨some, not_not.mpr mute⟩)
  -- whose name has been sent now
  have sentNow : ∀ id, (if name ≠ "" then Function.update state.toolCallNameSent callId true
      else state.toolCallNameSent) id = true ↔
        (id = callId ∧ name ≠ "") ∨ state.toolCallNameSent id = true := by
    intro id
    by_cases empty : name = ""
    · simp [empty]
    · by_cases same : id = callId
      · simp [empty, same]
      · simp [empty, same]
  rw [sendToolCallChunk_eq responseId name argsDelta (named callId some), fresh]
  refine { heard with
    content := (String.append_empty (s := reader.content)).trans heard.content
    calls := readFragment_heard heard
    ids := ?ids
    distinct := ?distinct
    saw := ⟨fun _ => upsert_ne_nil _, fun _ => rfl⟩
    named := ?named
    sent := ?sent
    unsent := ?unsent }
  case ids =>
    rw [heard.ids]
    exact (@map_key_upsert _ _ _ ToolCallRequest.id ⟨callId, name, argsDelta⟩ _
      (extend_id callId name argsDelta) session.calls).symm
  case distinct =>
    exact @nodup_upsert _ _ _ ToolCallRequest.id ⟨callId, name, argsDelta⟩ _
      (extend_id callId name argsDelta) _ heard.distinct
  case named =>
    intro _ id other
    rw [sentNow, named id other]
    by_cases empty : name = ""
    · simp [empty]
    · by_cases same : id = callId
      · simp [empty, same]
      · simp [empty, same]
  case sent =>
    simp only [sentNow]
    refine @forall_mem_upsert _ _ _ ToolCallRequest.id ⟨callId, name, argsDelta⟩ _ _
      (fun call => call.id = callId ∧ name ≠ "" ∨ state.toolCallNameSent call.id = true ↔
        call.name ≠ "") heard.distinct ?_ ?_ ?_
    · intro call inside other
      simp [heard.sent call inside, show call.id ≠ callId from other]
    · intro absent
      simp [heard.unsent callId absent]
    · intro call inside same
      have isCall : call.id = callId := same
      have before := heard.sent call inside
      rw [isCall] at before
      rw [extend_id callId name argsDelta call isCall, before]
      by_cases unnamed : call.name = ""
      · simp [extend, unnamed]
      · simp [extend, unnamed]
  case unsent =>
    intro id absent
    rw [@map_key_upsert _ _ _ ToolCallRequest.id ⟨callId, name, argsDelta⟩ _
      (extend_id callId name argsDelta)] at absent
    have other : id ≠ callId ∧ id ∉ session.calls.map ToolCallRequest.id := by
      split at absent
      next member => exact ⟨fun same => absent (same ▸ member), absent⟩
      rw [mem_append, mem_singleton, not_or] at absent
      exact ⟨absent.2, absent.1⟩
    rw [Bool.eq_false_iff, ne_eq, sentNow]
    simp [other.1, heard.unsent id other.2]

theorem sendToolCallDelta_heard (callId name argsDelta : String) :
    Hears reader (sendToolCallDelta responseId callId name argsDelta state)
      (session.add callId name argsDelta) := by
  unfold sendToolCallDelta
  split
  next empty =>
    rw [add, if_pos (Or.inl empty)]
    exact heard
  rename_i some
  split
  next spoken =>
    rw [add, if_pos (Or.inr (heard.text ▸ spoken))]
    exact heard
  rename_i mute
  apply Heard.andThen (sendStartIfNeeded_heard responseId heard)
  intro reader heard'
  exact sendToolCallChunk_heard responseId name argsDelta heard' some
    (heard.text.symm.trans (not_not.mp mute))

theorem Heard.note {arguments items : String → String} :
    Heard { state with toolCallArgsByID := arguments, toolCallCanonicalIDByItemID := items } reader
      { session with arguments := arguments, items := items } :=
  { heard with arguments := rfl, items := rfl }

/-- A name may be noted without being sent where no more tool calls are sent. -/
theorem Heard.noteName {name : String} (unsent : callId = "" ∨ session.text ≠ "") :
    Heard (state.noteName callId name) reader session := by
  refine { heard with named := ?_ }
  intro mute id some
  have other : id ≠ callId := by
    cases unsent with
    | inl empty => exact empty ▸ some
    | inr spoken => exact absurd mute spoken
  have known : (state.noteName callId name).toolCallNameByID id = state.toolCallNameByID id := by
    by_cases empty : name = ""
    · simp [ResponsesState.noteName, empty]
    · simp [ResponsesState.noteName, empty, other]
  rw [known]
  exact heard.named mute id some

theorem outputItem_heard (item : Option ResponsesOutput) :
    Hears reader (outputItem responseId item state) (session.item item) := by
  cases item with
  | none => exact heard
  | some item =>
    simp only [outputItem, Session.item]
    split
    next => exact heard
    -- the arguments and the item id first, then the name
    let noted : ResponsesState := { state with
      toolCallArgsByID := (session.learn item).arguments
      toolCallCanonicalIDByItemID := (session.learn item).items }
    have fields : session.learn item =
        { session with
          arguments := (session.learn item).arguments
          items := (session.learn item).items } := by
      rw [learn]
    have learned : Heard noted reader (session.learn item) := by
      exact heard.note
    have split : state.noteItem item = noted.noteName item.callID (Text.trimSpace item.name) := by
      simp [noteItem, noteName, noted, learn, heard.arguments, heard.items]
    rw [split, heard.arguments]
    by_cases unsent : item.callID = "" ∨ session.text ≠ ""
    · exact sendToolCallDelta_heard responseId (learned.noteName unsent) _ _ _
    · rw [not_or, not_not] at unsent
      have mute : noted.outputText = "" := heard.text.trans unsent.2
      rw [sendToolCallDelta_noteName responseId _ _ unsent.1 mute]
      exact sendToolCallDelta_heard responseId learned _ _ _

theorem functionCallArgumentsDelta_heard (itemId delta : String) :
    Hears reader (functionCallArgumentsDelta responseId itemId delta state)
      (session.piece itemId delta) := by
  have call : state.callIdOfItem itemId = session.callOf itemId := by
    rw [callIdOfItem, callOf, heard.items]
  simp only [functionCallArgumentsDelta, piece, call]
  split
  next => exact heard
  apply sendToolCallDelta_heard
  have noted := @Heard.note _ _ _ heard (Function.update session.arguments
    (session.callOf itemId) (session.arguments (session.callOf itemId) ++ delta)) session.items
  rw [noteArguments, heard.arguments]
  exact { noted with items := heard.items }

theorem sendStopIfNeeded_heard :
    Hears reader (sendStopIfNeeded responseId state) session.finish := by
  unfold sendStopIfNeeded
  cases reason : session.finishReason with
  | some reason' =>
    have stopped : state.sentStop = true := by rw [heard.stopped, reason, Option.isSome_some]
    have same : session.finish = session := by rw [Session.finish, reason, Option.some_or, ← reason]
    rw [if_pos stopped, same]
    exact heard
  | none =>
    have running : ¬ state.sentStop = true := by
      rw [heard.stopped, reason]
      exact Bool.false_ne_true
    have said : (if state.sawToolCall ∧ state.outputText = "" then "tool_calls" else "stop") =
        if session.calls ≠ [] ∧ session.text = "" then "tool_calls" else "stop" := by
      simp only [heard.saw, heard.text]
    rw [if_neg running]
    refine { heard with content := ?_, finish := ?_, stopped := ?_ }
    · exact (String.append_empty (s := reader.content)).trans heard.content
    · rw [Session.finish, reason, ← said]
      rfl
    · rw [Session.finish, reason]
      rfl

theorem completed_heard (response : Option ResponsesResponse) :
    Hears reader (completed responseId response state) session.finish := by
  have read : (readCompleted response state).told = state.told := by
    cases response with
    | none => rfl
    | some response =>
      obtain ⟨_, usage⟩ := response
      cases usage with
      | none | some => rfl
  apply Heard.andThen (sendStartIfNeeded_heard responseId (heard.keep read))
  intro reader heard
  exact sendStopIfNeeded_heard responseId heard

theorem responsesEvent_heard (event : ResponsesEvent) :
    Hears reader (responsesEvent responseId state event) (session.step event) := by
  unfold responsesEvent step
  by_cases ended : session.failed = true
  · rw [if_pos ended, if_pos (heard.failed.trans ended)]
    exact heard
  rw [if_neg ended, if_neg (heard.failed ▸ ended)]
  cases event with
  | created response =>
    cases response with
    | none => exact heard
    | some => exact heard.keep rfl
  | reasoningSummaryTextDelta delta => exact sendReasoningSummaryDelta_heard responseId heard delta
  | reasoningSummaryTextDone => exact heard.keep rfl
  | outputTextDelta delta => exact outputTextDelta_heard responseId heard delta
  | outputItemAdded item | outputItemDone item => exact outputItem_heard responseId heard item
  | functionCallArgumentsDelta itemId delta =>
    exact functionCallArgumentsDelta_heard responseId heard itemId delta
  | functionCallArgumentsDone => exact heard
  | completed response => exact completed_heard responseId heard response
  | failed => exact { heard with failed := rfl }
  | other => exact heard

theorem responsesEnd_heard (estimate : String → Usage) (running : session.failed = false) :
    Hears reader (responsesEnd responseId estimate state) session.finish := by
  have alive : ¬ state.streamErr = true := by
    rw [heard.failed, running]
    exact Bool.false_ne_true
  have paid : Heard { state with
      usage := if state.totalTokens = 0 then estimate state.usageText else state.usage }
      reader session := heard.keep rfl
  rw [responsesEnd, if_neg alive]
  apply Heard.andThen (sendStartIfNeeded_heard responseId paid)
  intro reader heard
  exact sendStopIfNeeded_heard responseId heard

theorem message_heard : reader.message = session.message := by
  rw [ChatReader.message, heard.content, heard.calls, map_snd_numbered, heard.finish]
  rfl

end

theorem heard_initially (model : String) : Heard { model := model } {} {} where
  text := rfl
  content := rfl
  calls := rfl
  ids := rfl
  distinct := nodup_nil
  saw := by simp
  arguments := rfl
  items := rfl
  finish := rfl
  stopped := rfl
  failed := rfl
  named := fun _ _ _ => by simp
  sent := nofun
  unsent := fun _ _ => rfl

theorem responsesEvents_heard (model : String) (events : List ResponsesEvent) :
    Hears {} (transduce (responsesEvent responseId) { model := model } events)
      (events.foldl step {}) :=
  transduce_simulates
    (fun state reader session event (heard : Heard state reader session) =>
      responsesEvent_heard responseId heard event)
    (heard_initially model) events

end Handler

end StuHelper.Relay
