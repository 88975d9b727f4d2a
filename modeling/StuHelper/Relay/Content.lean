import StuHelper.Lib.Channels
import StuHelper.Relay.Blocks

/-!
# The content of a converted stream

What a message says is its text, its reasoning and the arguments of each of its tool calls.
The chunks carry pieces of these, and a client reads pieces of the same kind off the events.

`Delivery` is the converter as the client sees it: a machine that takes chunks and delivers
pieces, without blocks and indices.  The converter refines it.  What is lost is then a
question about `Delivery` only.
-/

namespace StuHelper.Relay

variable {info : RelayInfo} {reader : Reader} {state : Calls}

open Lib RelayInfo Out StreamResponse List

/-! ## Pieces -/

/-- What a piece of content belongs to.  The tool calls are known by their numbers. -/
inductive Channel where
  | text
  | thinking
  | call (number : Int)
  deriving DecidableEq, Repr

def ChoiceDelta.pieces (delta : ChoiceDelta) : List (Channel × String) :=
  ((numbered delta.toolCalls).map fun fragment => (.call fragment.1, fragment.2.arguments)) ++
    [(.text, delta.getContentString)] ++ [(.thinking, delta.getReasoningContent)]

def StreamResponse.pieces (response : StreamResponse) : List (Channel × String) :=
  response.choices.flatMap fun choice => choice.delta.pieces

/-! ## The client -/

/-- A client that reads the events.  It counts the tool calls from the block after the last
text or reasoning, and remembers the block in which it has seen a tool call first. -/
structure Reader where
  base : Int := 0
  blocks : Int → Option Int := fun _ => none

/-- A tool block is seen. -/
def Reader.place (reader : Reader) (index : Int) : Reader :=
  let number := index - reader.base
  match reader.blocks number with
  | some _ => reader
  | none =>
    { reader with blocks := fun other => if other = number then some index
                                         else reader.blocks other }

/-- What the client takes from an event.  The arguments of a tool call are those that come to
its block. -/
def Reader.read (reader : Reader) : ClaudeResponse → Out (Channel × String) Reader
  | .contentBlockStart index contentBlock =>
    match contentBlock with
    | .text | .thinking => .silent { reader with base := index + 1 }
    | .toolUse _ _ => .silent (reader.place index)
  | .contentBlockDelta index delta =>
    match delta with
    | .text text => ⟨[(.text, text)], reader⟩
    | .thinking thinking => ⟨[(.thinking, thinking)], reader⟩
    | .inputJson partialJson =>
      let placed := reader.place index
      let number := index - reader.base
      if placed.blocks number = some index then ⟨[(.call number, partialJson)], placed⟩
      else .silent placed
  | .contentBlockStop _ | .messageStart _ _ _ | .messageDelta _ _ | .messageStop => .silent reader

/-- A call of `StreamResponseOpenAI2Claude` for the next chunk.  The callers count the chunk
and may store a usage before the call. -/
def RelayInfo.convert (info : RelayInfo) (input : Option Usage × StreamResponse) : Sent :=
  streamResponseOpenAI2Claude input.2 (info.receive input.1)

/-- A client reads the content of the chunks off the events of the conversion. -/
def ContentKept (estimatePromptTokens : Int) (inputs : List (Option Usage × StreamResponse)) :
    Prop :=
  let events := (transduce convert
    { estimatePromptTokens := estimatePromptTokens } inputs).events
  Same (transduce Reader.read {} events).events (inputs.flatMap fun input => input.2.pieces)

/-! ## The pieces that are delivered -/

/-- The tool calls that have been seen since the last text or reasoning, and before. -/
structure Calls where
  now : List Int := []
  past : List Int := []
  deriving DecidableEq, Repr

open Calls

namespace Calls

/-- A tool call is seen. -/
def place (state : Calls) (number : Int) : Calls :=
  if number ∈ state.past ∨ number ∈ state.now then state
  else { state with now := number :: state.now }

/-- The arguments of a fragment; those of an earlier tool call go to a block of their own. -/
def argue (state : Calls) (number : Int) (arguments : String) : Out (Channel × String) Calls :=
  if arguments = "" then .silent state
  else if number ∈ state.past then .silent (state.place number)
  else ⟨[(.call number, arguments)], state.place number⟩

def fragment (state : Calls) (fragment : Int × ToolCallResponse) : Out (Channel × String) Calls :=
  (if fragment.2.name = "" then state else state.place fragment.1).argue fragment.1
    fragment.2.arguments

/-- Text or reasoning. -/
def speak (state : Calls) : Option Speech → Out (Channel × String) Calls
  | none => .silent state
  | some speech =>
    ⟨[match speech with
        | .text said => (.text, said)
        | .thinking said => (.thinking, said)],
      { state with now := [], past := state.now ++ state.past }⟩

/-- The content of a chunk that is not the first. -/
def delta (state : Calls) (delta : ChoiceDelta) : Out (Channel × String) Calls :=
  if delta.toolCalls ≠ [] then transduce fragment state (numbered delta.toolCalls)
  else state.speak delta.speech

/-- The tool call of a first chunk is the first of the message, whatever its number. -/
def firstCall (state : Calls) (toolCalls : List ToolCallResponse) : Out (Channel × String) Calls :=
  match toolCalls with
  | [] => .silent state
  | toolCall :: _ => (state.place 0).argue 0 toolCall.arguments

/-- The content of the first chunk. -/
def first (state : Calls) (delta : ChoiceDelta) : Out (Channel × String) Calls :=
  (state.firstCall delta.toolCalls).andThen fun state => state.speak delta.speech

end Calls

/-- The converter without blocks: whether the first chunk has come, whether a usage is known,
whether the message is closed, and the tool calls. -/
structure Delivery where
  begun : Bool := false
  known : Bool := false
  closed : Bool := false
  calls : Calls := {}
  deriving DecidableEq, Repr

open Delivery

/-- A chunk.  Once the message is closed nothing is delivered, and nothing of a chunk whose
finish reason waits for a usage. -/
def Delivery.step (state : Delivery) (input : Option Usage × StreamResponse) :
    Out (Channel × String) Delivery :=
  let (stored, response) := input
  let known := stored.isSome || state.known
  if state.closed then .silent ⟨true, known, true, state.calls⟩
  else
    match response.choices with
    | [] => .silent ⟨true, known, state.begun && (response.usage.isSome || known), state.calls⟩
    | choice :: _ =>
      if state.begun && choice.isFinished && response.usage.isNone then
        .silent ⟨true, known, false, state.calls⟩
      else
        let delivered := if state.begun then state.calls.delta choice.delta
          else state.calls.first choice.delta
        ⟨delivered.events, ⟨true, known, choice.isFinished, delivered.state⟩⟩

/-! ## The client and the tool calls -/

/-- The block of the first tool call, if tool calls come next. -/
def RelayInfo.toolBase (info : RelayInfo) : Int :=
  match info.lastMessagesType with
  | .none => info.index
  | .text | .thinking => info.index + 1
  | .tools => info.toolCallBaseIndex

/-- The client knows the blocks of the tool calls.  Those of an earlier phase lie below. -/
structure Placed (reader : Reader) (state : Calls) : Prop where
  now : ∀ number ∈ state.now, reader.blocks number = some (reader.base + number)
  past : ∀ number ∈ state.past,
    ∃ index, reader.blocks number = some index ∧ index < reader.base + number
  fresh : ∀ number, number ∉ state.now → number ∉ state.past → reader.blocks number = none

@[simp] theorem Reader.place_base (reader : Reader) (index : Int) :
    (reader.place index).base = reader.base := by
  simp only [Reader.place]
  split
  · rfl
  · rfl

@[simp] theorem Calls.place_past (state : Calls) (number : Int) :
    (state.place number).past = state.past := by
  unfold place
  split
  · rfl
  · rfl

section Placing

variable (placed : Placed reader state)

include placed

theorem Placed.place (number : Int) :
    Placed (reader.place (reader.base + number)) (state.place number) := by
  have named : reader.base + number - reader.base = number := by omega
  by_cases seen : number ∈ state.past ∨ number ∈ state.now
  · have known : ∃ index, reader.blocks number = some index := by
      cases seen with
      | inl past => exact (placed.past number past).imp fun _ found => found.1
      | inr calls => exact ⟨_, placed.now number calls⟩
    obtain ⟨index, known⟩ := known
    simp only [Reader.place, named, known, Calls.place, if_pos seen]
    exact placed
  · obtain ⟨notPast, notCalls⟩ := not_or.mp seen
    have unknown := placed.fresh number notCalls notPast
    simp only [Reader.place, named, unknown, Calls.place, if_neg seen]
    constructor
    · intro other member
      by_cases same : other = number
      · subst same
        exact if_pos rfl
      · rw [← placed.now other ((mem_cons.mp member).resolve_left same)]
        exact if_neg same
    · intro other member
      have different : other ≠ number := fun same => notPast (same ▸ member)
      obtain ⟨index, found, below⟩ := placed.past other member
      exact ⟨index, (if_neg different).trans found, below⟩
    · intro other fresh notPast
      obtain ⟨different, notCalls⟩ := not_or.mp (mt mem_cons.mpr fresh)
      exact (if_neg different).trans (placed.fresh other notCalls notPast)

/-- A tool call is in the block that it has now, unless it was seen in an earlier phase. -/
theorem Placed.block (number : Int) :
    (reader.place (reader.base + number)).blocks number = some (reader.base + number) ↔
      number ∉ state.past := by
  have now := placed.place number
  constructor
  · intro found past
    obtain ⟨_, known, below⟩ := now.past number (by simpa using past)
    rw [Reader.place_base] at below
    rw [found, Option.some_inj] at known
    omega
  · intro notPast
    have member : number ∈ (state.place number).now := by
      unfold Calls.place
      split
      next seen => exact seen.resolve_left notPast
      next => exact mem_cons_self
    simpa using now.now number member

/-- Text or reasoning puts the tool calls into the past. -/
theorem Placed.speak {base : Int} (above : reader.base < base) :
    Placed { reader with base := base }
      { state with now := [], past := state.now ++ state.past } where
  now := fun _ member => nomatch member
  past := by
    intro number member
    cases mem_append.mp member with
    | inl now => exact ⟨_, placed.now number now, Int.add_lt_add_right above number⟩
    | inr before =>
      obtain ⟨index, found, below⟩ := placed.past number before
      exact ⟨index, found, Int.lt_trans below (Int.add_lt_add_right above number)⟩
  fresh := by
    intro number _ notPast
    obtain ⟨notCalls, notPast⟩ := not_or.mp (mt mem_append.mpr notPast)
    exact placed.fresh number notCalls notPast

end Placing

/-! ## The client and the converter -/

/-- The client, the converter and the delivery within a message. -/
structure Tracks (info : RelayInfo) (reader : Reader) (state : Calls) : Prop
    extends Placed reader state where
  base : reader.base = info.toolBase
  idle : info.lastMessagesType ≠ .tools → state.now = []
  sound : info.lastMessagesType = .tools → 0 ≤ info.toolCallMaxIndexOffset

/-- The client takes from the events what is delivered, and keeps track. -/
def Delivers (reader : Reader) (sent : Sent) (delivered : Out (Channel × String) Calls) : Prop :=
  (transduce Reader.read reader sent.events).events = delivered.events ∧
    Tracks sent.state (transduce Reader.read reader sent.events).state delivered.state

theorem Delivers.silent (tracks : Tracks info reader state) :
    Delivers reader (.silent info) (.silent state) :=
  ⟨rfl, tracks⟩

variable {sent : Sent} {delivered : Out (Channel × String) Calls}

theorem Delivers.andThen {next : RelayInfo → Sent} {deliver : Calls → Out (Channel × String) Calls}
    (first : Delivers reader sent delivered)
    (rest : ∀ reader, Tracks sent.state reader delivered.state →
      Delivers reader (next sent.state) (deliver delivered.state)) :
    Delivers reader (sent.andThen next) (delivered.andThen deliver) := by
  obtain ⟨taken, tracks⟩ := first
  obtain ⟨takenLater, tracksLater⟩ := rest _ tracks
  simp only [Delivers, andThen_events, andThen_state, transduce_append, taken, takenLater]
  exact ⟨trivial, tracksLater⟩

/-- The client takes nothing from these events. -/
def Unread (events : List ClaudeResponse) : Prop :=
  ∀ reader, transduce Reader.read reader events = .silent reader

theorem Unread.append {front back : List ClaudeResponse} (first : Unread front)
    (second : Unread back) : Unread (front ++ back) := by
  intro reader
  rw [transduce_append, first reader]
  exact second reader

theorem unread_stopOpenBlocks (info : RelayInfo) : Unread (stopOpenBlocks info) := by
  intro reader
  rw [stopOpenBlocks_eq]
  induction info.openBlocks with
  | nil => rfl
  | cons block blocks ih =>
    exact ih

/-! ## Text and reasoning -/

theorem toolBase_le_nextIndex
    (sound : info.lastMessagesType = .tools → 0 ≤ info.toolCallMaxIndexOffset) :
    info.toolBase ≤ info.nextIndex := by
  unfold toolBase nextIndex
  cases last : info.lastMessagesType with
  | none | text | thinking => exact Int.le_refl _
  | tools =>
    have := sound last
    change info.toolCallBaseIndex ≤ info.toolCallBaseIndex + info.toolCallMaxIndexOffset + 1
    omega

theorem read_speech_start (reader : Reader) (index : Int) (speech : Speech) :
    reader.read (.contentBlockStart index speech.block) =
      .silent { reader with base := index + 1 } := by
  cases speech with
  | text | thinking => rfl

theorem read_speech_delta (reader : Reader) (index : Int) (speech : Speech) (state : Calls) :
    reader.read (.contentBlockDelta index speech.delta) =
      ⟨(state.speak (some speech)).events, reader⟩ := by
  cases speech with
  | text | thinking => rfl

theorem sendSpeech_delivers (tracks : Tracks info reader state) (speech : Speech) :
    Delivers reader (sendSpeech speech info) (state.speak (some speech)) := by
  by_cases last : info.lastMessagesType = speech.type
  · have idle : state.now = [] := tracks.idle (last ▸ speech.type_ne_tools)
    have unmoved : (state.speak (some speech)).state = state := by
      cases state
      cases idle
      rfl
    rw [sendSpeech_same last, Delivers, transduce_cons,
      read_speech_delta reader info.index speech state]
    refine ⟨append_nil _, ?_⟩
    rw [unmoved]
    exact tracks
  · obtain ⟨_, index⟩ := stopOpenBlocksAndAdvance_state info
    have below : reader.base < info.nextIndex + 1 := by
      rw [tracks.base]
      exact Int.lt_add_one_of_le (toolBase_le_nextIndex tracks.sound)
    have taken : transduce Reader.read reader (sendSpeech speech info).events =
        ⟨(state.speak (some speech)).events, { reader with base := info.nextIndex + 1 }⟩ := by
      simp only [sendSpeech_other last, transduce_append, unread_stopOpenBlocks info reader,
        transduce_cons, transduce_nil, read_speech_start, read_speech_delta _ _ speech state,
        andThen, silent, nil_append, append_nil]
    rw [Delivers, taken, sendSpeech_other last]
    refine ⟨rfl, ⟨tracks.toPlaced.speak below, ?_, fun _ => rfl, fun tools => ?_⟩⟩
    · cases speech with
      | text | thinking => exact congrArg (· + 1) index.symm
    · exact absurd tools speech.type_ne_tools

/-! ## Tool calls -/

/-- The client takes the arguments of a fragment if the tool call is in its block. -/
theorem Placed.argue (placed : Placed reader state) (number : Int) (arguments : String) :
    let taken := transduce Reader.read reader
      (if arguments ≠ "" then [.contentBlockDelta (reader.base + number) (.inputJson arguments)]
      else [])
    taken.events = (state.argue number arguments).events ∧
      Placed taken.state (state.argue number arguments).state ∧ taken.state.base = reader.base := by
  have named : reader.base + number - reader.base = number := by omega
  by_cases empty : arguments = ""
  · simp only [Calls.argue, empty, ne_eq, not_true, if_false, if_true]
    exact ⟨rfl, placed, rfl⟩
  simp only [Calls.argue, empty, ne_eq, not_false_eq_true, if_true, if_false, transduce_cons,
    transduce_nil, Reader.read, named, placed.block number]
  by_cases past : number ∈ state.past
  · simp only [past, not_true, if_false, if_true]
    exact ⟨rfl, placed.place number, Reader.place_base _ _⟩
  · simp only [past, not_false_eq_true, if_false, if_true]
    exact ⟨rfl, placed.place number, Reader.place_base _ _⟩

theorem Placed.fragment (placed : Placed reader state) (maxOffset : Int)
    (fragment : Int × ToolCallResponse) :
    let taken := transduce Reader.read reader (toolFragment reader.base maxOffset fragment).events
    taken.events = (state.fragment fragment).events ∧
      Placed taken.state (state.fragment fragment).state ∧ taken.state.base = reader.base := by
  obtain ⟨number, call⟩ := fragment
  by_cases unnamed : call.name = ""
  · simp only [toolFragment, Calls.fragment, unnamed, ne_eq, not_true, if_false, if_true,
      nil_append]
    exact placed.argue number call.arguments
  · simp only [toolFragment, Calls.fragment, unnamed, ne_eq, not_false_eq_true, if_false,
      if_true, singleton_append, transduce_cons, Reader.read, andThen_events,
      andThen_state, silent_events, silent_state, nil_append]
    have later := (placed.place number).argue number call.arguments
    rwa [Reader.place_base] at later

theorem Placed.fragments {base maxOffset : Int} (placed : Placed reader state)
    (based : reader.base = base) (fragments : List (Int × ToolCallResponse)) :
    let taken := transduce Reader.read reader
      (transduce (toolFragment base) maxOffset fragments).events
    let delivered := transduce Calls.fragment state fragments
    taken.events = delivered.events ∧ Placed taken.state delivered.state ∧
      taken.state.base = base := by
  induction fragments generalizing maxOffset reader state with
  | nil => exact ⟨rfl, placed, based⟩
  | cons fragment fragments ih =>
    obtain ⟨taken, now, kept⟩ := placed.fragment maxOffset fragment
    rw [based] at taken now kept
    obtain ⟨takenLater, later, keptLater⟩ :=
      @ih _ _ (toolFragment base maxOffset fragment).state now kept
    simp only [transduce_cons, andThen_events, andThen_state, transduce_append, taken, takenLater]
    exact ⟨trivial, later, keptLater⟩

theorem enterTools_delivers (tracks : Tracks info reader state) :
    Delivers reader (enterTools info) (.silent state) ∧
      (enterTools info).state.lastMessagesType = .tools := by
  by_cases last : info.lastMessagesType = .tools
  · rw [enterTools_same last]
    exact ⟨Delivers.silent tracks, last⟩
  have next : info.nextIndex = info.toolBase := by
    unfold nextIndex toolBase
    cases type : info.lastMessagesType with
    | none | text | thinking => rfl
    | tools => exact absurd type last
  rw [enterTools_other last, Delivers, unread_stopOpenBlocks info reader]
  exact ⟨⟨rfl, tracks.toPlaced, tracks.base.trans next.symm, fun other => absurd rfl other,
    fun _ => Int.le_refl 0⟩, rfl⟩

theorem sendToolCalls_delivers (tracks : Tracks info reader state)
    (toolCalls : List ToolCallResponse) :
    Delivers reader (sendToolCalls toolCalls info)
      (transduce fragment state (numbered toolCalls)) := by
  obtain ⟨entered, last⟩ := enterTools_delivers tracks
  apply @Delivers.andThen _ _ _ _ (transduce fragment · (numbered toolCalls)) entered
  intro reader tracks
  have based : reader.base = (enterTools info).state.toolCallBaseIndex := by
    rw [tracks.base, toolBase, last]
  obtain ⟨taken, placed, kept⟩ := tracks.toPlaced.fragments based (numbered toolCalls)
  refine ⟨taken, placed, ?_, fun other => absurd last other, fun _ => ?_⟩
  · simp only [last]
    exact kept
  · exact Int.le_trans (tracks.sound last) (toolFragments_grow _ _ _)

/-! ## Chunks -/

section Chunks

theorem sendDelta_delivers (tracks : Tracks info reader state) (delta : ChoiceDelta) :
    Delivers reader (sendDelta delta info) (state.delta delta) := by
  unfold sendDelta Calls.delta
  split
  · exact sendToolCalls_delivers tracks delta.toolCalls
  · cases delta.speech with
    | none => exact Delivers.silent tracks
    | some speech => exact sendSpeech_delivers tracks speech

variable {response : StreamResponse} {choice : StreamChoice} {others : List StreamChoice}

theorem firstToolCall_delivers (tracks : Tracks info reader state)
    (last : info.lastMessagesType = .none) (index : info.index = 0)
    (choices : response.choices = choice :: others) :
    Delivers reader (firstToolCall response info) (state.firstCall choice.delta.toolCalls) := by
  have based : reader.base = 0 := by rw [tracks.base, toolBase, last, index]
  cases calls : choice.delta.toolCalls with
  | nil =>
    have none : response.getFirstToolCall = none := by simp [getFirstToolCall, choices, calls]
    simp only [firstToolCall, none]
    exact Delivers.silent tracks
  | cons toolCall =>
    have some : response.getFirstToolCall = some toolCall := by
      simp [getFirstToolCall, choices, calls]
    have start : reader.read (.contentBlockStart 0 (.toolUse toolCall.id toolCall.name)) =
        .silent (reader.place (reader.base + 0)) := by
      rw [based]
      rfl
    obtain ⟨taken, placed, kept⟩ := (tracks.toPlaced.place 0).argue 0 toolCall.arguments
    rw [Reader.place_base, based] at taken placed kept
    simp only [Delivers, firstToolCall, some, transduce_cons, start, andThen_events,
      andThen_state, silent_events, silent_state, nil_append, based]
    exact ⟨taken, placed, kept, fun other => absurd rfl other, fun _ => Int.le_refl 0⟩

theorem firstSpeech_delivers (tracks : Tracks info reader state)
    (quiet : ∀ speech : Speech, info.lastMessagesType ≠ speech.type)
    (choices : response.choices = choice :: others) :
    Delivers reader (firstSpeech response info) (state.speak choice.delta.speech) := by
  rw [firstSpeech_eq response quiet, choices]
  change Delivers reader (match choice.delta.speech with
    | none => .silent info
    | some speech => sendSpeech speech info) _
  cases choice.delta.speech with
  | none => exact Delivers.silent tracks
  | some speech => exact sendSpeech_delivers tracks speech

theorem unread_finishMessage (response : StreamResponse) (info : RelayInfo) :
    Unread (finishMessage response info).events := by
  apply Unread.append _ (fun _ => rfl)
  apply Unread.append (unread_stopOpenBlocks info)
  cases response.usage.or info.usage with
  | none | some => exact fun _ => rfl

end Chunks

/-! ## Streams -/

/-- The client, the converter and the delivery between two chunks. -/
structure Mirrors (info : RelayInfo) (reader : Reader) (state : Delivery) : Prop where
  begun : state.begun = decide (info.sendResponseCount ≠ 0)
  known : state.known = info.usage.isSome
  closed : state.closed = info.done
  tracks : info.done = false → Tracks info reader state.calls
  start : info.sendResponseCount = 0 → info.lastMessagesType = .none ∧ info.index = 0

section Streams

variable {calls : Calls} {response : StreamResponse}

/-- A chunk is read as it is delivered, and leaves the message open or closed. -/
def Chunk (reader : Reader) (sent : Sent) (delivered : List (Channel × String)) (closed : Bool)
    (calls : Calls) : Prop :=
  (transduce Reader.read reader sent.events).events = delivered ∧ sent.state.done = closed ∧
    (closed = false → Tracks sent.state (transduce Reader.read reader sent.events).state calls)

theorem Delivers.chunk (delivers : Delivers reader sent delivered) (keeps : info.Keeps sent.state)
    (isOpen : info.done = false) : Chunk reader sent delivered.events false delivered.state :=
  ⟨delivers.1, keeps.done.trans isOpen, fun _ => delivers.2⟩

theorem Delivers.closing (delivers : Delivers reader sent delivered) {finish : RelayInfo → Sent}
    (unread : Unread (finish sent.state).events) (done : (finish sent.state).state.done = true) :
    Chunk reader (sent.andThen finish) delivered.events true delivered.state := by
  refine ⟨?_, done, nofun⟩
  rw [andThen_events, transduce_append, andThen_events, unread, delivers.1]
  exact append_nil _

theorem usageResponse_chunk (tracks : Tracks info reader calls) (isOpen : info.done = false) :
    Chunk reader (usageResponse response info) [] (response.usage.isSome || info.usage.isSome)
      calls := by
  cases known : response.usage.or info.usage with
  | none =>
    obtain ⟨own, stored⟩ := Option.or_eq_none_iff.mp known
    have sent : usageResponse response info = .silent info := by simp [usageResponse, known]
    rw [sent, own, stored]
    exact ⟨rfl, isOpen, fun _ => tracks⟩
  | some usage =>
    have closes : (response.usage.isSome || info.usage.isSome) = true := by
      rw [← Option.isSome_or, known]
      rfl
    rw [closes]
    apply @Delivers.closing _ _ _ (Delivers.silent tracks) (usageResponse response)
    · simp only [usageResponse, silent_state, known]
      exact (unread_stopOpenBlocks info).append fun _ => rfl
    · simp only [usageResponse, silent_state, known]

variable {choice : StreamChoice} {others : List StreamChoice}

theorem laterResponse_chunk (tracks : Tracks info reader calls) (isOpen : info.done = false)
    (later : info.sendResponseCount ≠ 1) (choices : response.choices = choice :: others) :
    if choice.isFinished && response.usage.isNone then
      Chunk reader (streamResponseOpenAI2Claude response info) [] false calls
    else Chunk reader (streamResponseOpenAI2Claude response info)
      (calls.delta choice.delta).events choice.isFinished (calls.delta choice.delta).state := by
  rw [streamResponseOpenAI2Claude_choice isOpen later choices]
  have ended : Tracks { info with finishReason := choice.finishReason.getD "" } reader calls :=
    { tracks with }
  cases finished : choice.isFinished with
  | false => exact (sendDelta_delivers tracks choice.delta).chunk (sendDelta_keeps _ info) isOpen
  | true =>
    cases response.usage with
    | none => exact ⟨rfl, isOpen, fun _ => ended⟩
    | some =>
      exact (sendDelta_delivers ended choice.delta).closing (unread_finishMessage _ _) rfl

theorem firstResponse_chunk (tracks : Tracks info reader calls) (isOpen : info.done = false)
    (last : info.lastMessagesType = .none) (index : info.index = 0)
    (choices : response.choices = choice :: others) :
    Chunk reader (firstResponse response info) (calls.first choice.delta).events choice.isFinished
      (calls.first choice.delta).state := by
  let started : Sent :=
    ⟨[.messageStart response.id response.model info.estimatePromptTokens], info⟩
  have start : Delivers reader started (.silent calls) := ⟨rfl, tracks⟩
  have tool : Delivers reader (started.andThen (firstToolCall response))
      (calls.firstCall choice.delta.toolCalls) :=
    @Delivers.andThen _ _ _ _ (fun calls => calls.firstCall choice.delta.toolCalls) start
      fun reader tracks => firstToolCall_delivers tracks last index choices
  have content : Delivers reader
      ((started.andThen (firstToolCall response)).andThen (firstSpeech response))
      (calls.first choice.delta) :=
    tool.andThen fun reader tracks =>
      firstSpeech_delivers tracks (firstToolCall_quiet response last) choices
  cases finished : choice.isFinished with
  | false =>
    have finish : firstFinish response = .silent := by
      funext info
      simp [firstFinish, choices, finished]
    rw [firstResponse, finish, andThen_silent]
    exact content.chunk ((firstToolCall_keeps response info).trans (firstSpeech_keeps response _))
      isOpen
  | true =>
    have finish : firstFinish response = fun info => finishMessage response
        { info with finishReason := choice.finishReason.getD "" } := by
      funext info
      simp [firstFinish, choices, finished]
    rw [firstResponse, finish]
    exact content.closing (unread_finishMessage _ _) rfl

/-- A chunk that is read as it is delivered keeps the client, the converter and the delivery
together. -/
theorem Chunk.mirrors {input : Option Usage × StreamResponse} {delivered : List (Channel × String)}
    {closed : Bool} (chunk : Chunk reader (info.convert input) delivered closed calls) :
    Mirrors (info.convert input).state
      (transduce Reader.read reader (info.convert input).events).state
      ⟨true, input.1.isSome || info.usage.isSome, closed, calls⟩ := by
  obtain ⟨count, usage⟩ := streamResponseOpenAI2Claude_kept input.2 (info.receive input.1)
  have counted : (info.convert input).state.sendResponseCount ≠ 0 := by
    rw [convert, count]
    exact Nat.succ_ne_zero _
  obtain ⟨-, done, tracks⟩ := chunk
  constructor
  · exact (decide_eq_true counted).symm
  · rw [convert, usage, receive, Option.isSome_or]
  · exact done.symm
  · intro stillOpen
    exact tracks (done.symm.trans stillOpen)
  · intro none
    exact absurd none counted

/-- The converter refines the delivery: the client takes from the events of a chunk what is
delivered. -/
theorem Mirrors.convert {state : Delivery} (mirrors : Mirrors info reader state)
    (input : Option Usage × StreamResponse) :
    (transduce Reader.read reader (info.convert input).events).events = (state.step input).events ∧
      Mirrors (info.convert input).state
        (transduce Reader.read reader (info.convert input).events).state
        (state.step input).state := by
  -- it remains to read off the step what the chunk does
  suffices chunk : ∃ delivered closed calls,
      Chunk reader (info.convert input) delivered closed calls ∧ state.step input =
          ⟨delivered, ⟨true, input.1.isSome || info.usage.isSome, closed, calls⟩⟩ by
    obtain ⟨_, closed, calls, chunk, step⟩ := chunk
    rw [step]
    exact ⟨chunk.1, chunk.mirrors⟩
  obtain ⟨stored, response⟩ := input
  obtain ⟨begun, known, closed, calls⟩ := state
  obtain rfl : begun = _ := mirrors.begun
  obtain rfl : known = _ := mirrors.known
  obtain rfl : closed = _ := mirrors.closed
  cases done : info.done with
  | true =>
    have ended : (info.receive stored).done = true := done
    refine ⟨[], true, calls, ?_, rfl⟩
    rw [RelayInfo.convert, streamResponseOpenAI2Claude_done ended]
    exact ⟨rfl, done, nofun⟩
  | false =>
    have isOpen : (info.receive stored).done = false := done
    have tracks := mirrors.tracks done
    have received : Tracks (info.receive stored) reader calls :=
      { tracks with }
    by_cases first : info.sendResponseCount = 0
    · obtain ⟨last, index⟩ := mirrors.start first
      have one : (info.receive stored).sendResponseCount = 1 := congrArg (· + 1) first
      rw [RelayInfo.convert, streamResponseOpenAI2Claude_first isOpen one]
      cases choices : response.choices with
      | nil =>
        refine ⟨[], false, calls, ?_, ?_⟩
        · have sent : firstResponse response (info.receive stored) =
              ⟨[.messageStart response.id response.model info.estimatePromptTokens],
                info.receive stored⟩ := by
            simp [firstResponse, firstToolCall, firstSpeech, firstFinish,
              getFirstToolCall, choices, andThen, receive]
          rw [sent]
          exact ⟨rfl, done, fun _ => received⟩
        · simp [step, choices, first, silent]
      | cons =>
        refine ⟨_, _, _, firstResponse_chunk received done last index choices, ?_⟩
        simp [step, choices, first]
    · have later : (info.receive stored).sendResponseCount ≠ 1 :=
        fun one => first (Nat.succ.inj one)
      rw [RelayInfo.convert]
      cases choices : response.choices with
      | nil =>
        rw [streamResponseOpenAI2Claude_usage isOpen later choices]
        refine ⟨_, _, _, usageResponse_chunk received done, ?_⟩
        simp [step, choices, first, silent, receive]
      | cons =>
        have chunk := laterResponse_chunk received done later choices
        split at chunk
        next waits =>
          refine ⟨_, _, _, chunk, ?_⟩
          simp [step, choices, first, waits, silent]
        next waits =>
          refine ⟨_, _, _, chunk, ?_⟩
          simp [step, choices, first, waits]

/-- Before the first chunk. -/
theorem mirrors_start (estimatePromptTokens : Int) : Mirrors { estimatePromptTokens } {} {} :=
  ⟨rfl, rfl, rfl, fun _ => ⟨⟨nofun, nofun, fun _ _ _ => rfl⟩, rfl, fun _ => rfl, nofun⟩,
    fun _ => ⟨rfl, rfl⟩⟩

/-- What a client reads off the events is what the chunks deliver, in the same order. -/
theorem content_refines_delivery (estimatePromptTokens : Int)
    (inputs : List (Option Usage × StreamResponse)) :
    (transduce Reader.read {} (transduce convert { estimatePromptTokens } inputs).events).events =
      (transduce Delivery.step {} inputs).events :=
  transduce_refines (fun _ _ _ input mirrors => mirrors.convert input) (mirrors_start _) inputs

end Streams

/-! ## What is lost -/

/-- The delta carries nothing. -/
def ChoiceDelta.Empty (delta : ChoiceDelta) : Prop :=
  (∀ fragment ∈ numbered delta.toolCalls, fragment.2.arguments = "") ∧
    delta.getContentString = "" ∧ delta.getReasoningContent = ""

/-- A chunk that is not the first carries arguments of tool calls, none of which was seen
before the last text or reasoning, or text, or reasoning. -/
def Calls.Whole (calls : Calls) (delta : ChoiceDelta) : Prop :=
  if delta.toolCalls ≠ [] then
    (∀ fragment ∈ numbered delta.toolCalls, fragment.2.arguments = "" ∨ fragment.1 ∉ calls.past) ∧
      delta.getContentString = "" ∧ delta.getReasoningContent = ""
  else delta.getContentString = "" ∨ delta.getReasoningContent = ""

/-- A first chunk carries arguments of the tool call with the number 0 in its first fragment
only, and not both text and reasoning. -/
def ChoiceDelta.WholeFirst (delta : ChoiceDelta) : Prop :=
  ((∀ fragment ∈ (numbered delta.toolCalls).head?, fragment.2.arguments = "" ∨ fragment.1 = 0) ∧
      ∀ fragment ∈ (numbered delta.toolCalls).tail, fragment.2.arguments = "") ∧
    (delta.getContentString = "" ∨ delta.getReasoningContent = "")

/-- All that the chunk carries is delivered. -/
def Delivery.Whole (state : Delivery) (input : Option Usage × StreamResponse) : Prop :=
  (∀ choice ∈ input.2.choices.head?,
      if state.closed || state.begun && choice.isFinished && input.2.usage.isNone then
        choice.delta.Empty
      else if state.begun then state.calls.Whole choice.delta
      else choice.delta.WholeFirst) ∧ ∀ other ∈ input.2.choices.tail, other.delta.Empty

instance (delta : ChoiceDelta) : Decidable delta.Empty :=
  inferInstanceAs (Decidable (_ ∧ _))

instance (calls : Calls) (delta : ChoiceDelta) : Decidable (calls.Whole delta) :=
  inferInstanceAs (Decidable (ite _ _ _))

instance (delta : ChoiceDelta) : Decidable delta.WholeFirst :=
  inferInstanceAs (Decidable (_ ∧ _))

instance (state : Delivery) (input : Option Usage × StreamResponse) :
    Decidable (state.Whole input) :=
  inferInstanceAs (Decidable (_ ∧ _))

theorem ChoiceDelta.empty_iff (delta : ChoiceDelta) : delta.Empty ↔ Same [] delta.pieces := by
  rw [same_nil_iff, ChoiceDelta.pieces, forall_mem_append, forall_mem_append,
    forall_mem_map, forall_mem_singleton, forall_mem_singleton, and_assoc]
  rfl

theorem argue_same (calls : Calls) (number : Int) (arguments : String) :
    Within (calls.argue number arguments).events [(.call number, arguments)] ∧
      (Same (calls.argue number arguments).events [(.call number, arguments)] ↔
        arguments = "" ∨ number ∉ calls.past) := by
  unfold argue
  split
  next empty =>
    refine ⟨Within.nil _, iff_of_true (same_nil_iff.mpr ?_) (.inl empty)⟩
    simpa using empty
  rename_i said
  split
  next past =>
    refine ⟨Within.nil _, iff_of_false (fun same => said ?_) ?_⟩
    · simpa using same_nil_iff.mp same
    · exact not_or.mpr ⟨said, not_not_intro past⟩
  next notPast => exact ⟨Within.refl _, iff_of_true (Same.refl _) (.inr notPast)⟩

theorem Calls.argue_past (calls : Calls) (number : Int) (arguments : String) :
    (calls.argue number arguments).state.past = calls.past := by
  unfold argue
  split
  · rfl
  · split
    · exact place_past calls number
    · exact place_past calls number

theorem fragments_same (calls : Calls) (fragments : List (Int × ToolCallResponse)) :
    let delivered := (transduce fragment calls fragments).events
    let carried : List (Channel × String) :=
      fragments.map fun fragment => (.call fragment.1, fragment.2.arguments)
    Within delivered carried ∧
      (Same delivered carried ↔
        ∀ fragment ∈ fragments, fragment.2.arguments = "" ∨ fragment.1 ∉ calls.past) := by
  have step : ∀ (state : Calls) (fragment : Int × ToolCallResponse), state.past = calls.past →
      (state.fragment fragment).state.past = calls.past ∧
      Within (state.fragment fragment).events [(.call fragment.1, fragment.2.arguments)] ∧
      (Same (state.fragment fragment).events [(.call fragment.1, fragment.2.arguments)] ↔
        fragment.2.arguments = "" ∨ fragment.1 ∉ calls.past) := by
    intro state fragment same
    have placed : (if fragment.2.name = "" then state else state.place fragment.1).past =
        calls.past := by
      split
      · exact same
      · exact (place_past state fragment.1).trans same
    rw [Calls.fragment, argue_past, placed, ← placed]
    exact ⟨rfl, argue_same _ fragment.1 fragment.2.arguments⟩
  have run := transduce_same_iff (fun state fragment same => (step state fragment same).1)
    (fun state fragment same => (step state fragment same).2.1)
    (fun state fragment same => (step state fragment same).2.2) rfl fragments
  rw [along_iff_forall_mem, ← map_eq_flatMap] at run
  exact run

theorem speak_same (calls : Calls) (delta : ChoiceDelta) :
    let carried : List (Channel × String) :=
      [(.text, delta.getContentString)] ++ [(.thinking, delta.getReasoningContent)]
    Within (calls.speak delta.speech).events carried ∧
      (Same (calls.speak delta.speech).events carried ↔
        delta.getContentString = "" ∨ delta.getReasoningContent = "") := by
  have nothing : ∀ (channel : Channel) (text : String), Same [] [(channel, text)] ↔ text = "" := by
    intro channel text
    rw [same_nil_iff, forall_mem_singleton]
  unfold ChoiceDelta.speech
  split
  next reasons =>
    have aligned : (calls.speak (some (.thinking delta.getReasoningContent))).events =
        [] ++ [(.thinking, delta.getReasoningContent)] := rfl
    rw [aligned]
    refine ⟨(Within.nil _).append (Within.refl _), ?_⟩
    rw [same_append_iff (Within.nil _) (Within.refl _), nothing, or_iff_left reasons]
    exact and_iff_left (Same.refl _)
  rename_i silent
  have silent := not_not.mp silent
  rw [silent]
  split
  next speaks =>
    have aligned : (calls.speak (some (.text delta.getContentString))).events =
        [(.text, delta.getContentString)] ++ [] := rfl
    rw [aligned]
    refine ⟨(Within.refl _).append (Within.nil _), ?_⟩
    rw [same_append_iff (Within.refl _) (Within.nil _), nothing]
    exact iff_of_true ⟨Same.refl _, rfl⟩ (.inr rfl)
  rename_i quiet
  have aligned : (calls.speak none).events = [] ++ [] := rfl
  rw [aligned]
  refine ⟨(Within.nil _).append (Within.nil _), ?_⟩
  rw [same_append_iff (Within.nil _) (Within.nil _), nothing, nothing]
  exact iff_of_true ⟨not_not.mp quiet, rfl⟩ (.inr rfl)

theorem delta_same (calls : Calls) (delta : ChoiceDelta) :
    Within (calls.delta delta).events delta.pieces ∧
      (Same (calls.delta delta).events delta.pieces ↔ calls.Whole delta) := by
  unfold Calls.delta Calls.Whole ChoiceDelta.pieces
  rw [append_assoc]
  by_cases none : delta.toolCalls = []
  · rw [if_neg (not_not_intro none), if_neg (not_not_intro none), none]
    exact speak_same calls delta
  rw [if_pos none, if_pos none]
  obtain ⟨within, same⟩ := fragments_same calls (numbered delta.toolCalls)
  refine ⟨within.append_right _, ?_⟩
  rw [same_append_right_iff within, same, forall_mem_append, forall_mem_singleton,
    forall_mem_singleton]

/-! ## The first chunk -/

/-- The first fragment of a first chunk is taken for a fragment of another tool call. -/
def ChoiceDelta.Misplaced (delta : ChoiceDelta) : Prop :=
  ∃ fragment ∈ (numbered delta.toolCalls).head?, fragment.2.arguments ≠ "" ∧ fragment.1 ≠ 0

theorem first_same {delta : ChoiceDelta} (placed : ¬ delta.Misplaced) :
    Within (first {} delta).events delta.pieces ∧
      (Same (first {} delta).events delta.pieces ↔ delta.WholeFirst) := by
  rw [first, andThen_events, ChoiceDelta.pieces, append_assoc]
  obtain ⟨withinSpeech, sameSpeech⟩ := speak_same (firstCall {} delta.toolCalls).state delta
  -- the speech is as before, and the calls are compared fragment by fragment
  suffices calls : Within (firstCall {} delta.toolCalls).events
        ((numbered delta.toolCalls).map fun fragment => (.call fragment.1, fragment.2.arguments)) ∧
      (Same (firstCall {} delta.toolCalls).events
          ((numbered delta.toolCalls).map fun fragment =>
            (.call fragment.1, fragment.2.arguments)) ↔
        (∀ fragment ∈ (numbered delta.toolCalls).head?,
            fragment.2.arguments = "" ∨ fragment.1 = 0) ∧
          ∀ fragment ∈ (numbered delta.toolCalls).tail, fragment.2.arguments = "") by
    refine ⟨calls.1.append withinSpeech, ?_⟩
    rw [same_append_iff calls.1 withinSpeech, calls.2, sameSpeech]
    rfl
  cases called : delta.toolCalls with
  | nil => exact ⟨Within.nil _, iff_of_true (Same.refl _) ⟨nofun, nofun⟩⟩
  | cons toolCall rest =>
    obtain ⟨_, fragments⟩ : ∃ others,
        numbered (toolCall :: rest) = (toolCall.index.getD 0, toolCall) :: others := by
      simp [numbered, mapIdx_cons]
    have inPlace : toolCall.arguments = "" ∨ toolCall.index.getD 0 = 0 := by
      by_contra neither
      obtain ⟨said, other⟩ := not_or.mp neither
      apply placed
      rw [ChoiceDelta.Misplaced, called, fragments]
      exact ⟨_, rfl, said, other⟩
    obtain ⟨within, same⟩ := argue_same (place {} 0) 0 toolCall.arguments
    have whole := same.mpr (.inr (by simp))
    have head : Within (firstCall {} (toolCall :: rest)).events
          [(.call (toolCall.index.getD 0), toolCall.arguments)] ∧
        Same (firstCall {} (toolCall :: rest)).events
          [(.call (toolCall.index.getD 0), toolCall.arguments)] := by
      cases inPlace with
      | inl empty =>
        have silent : (firstCall {} (toolCall :: rest)).events = [] := by
          simp [firstCall, argue, empty]
        rw [silent, empty]
        refine ⟨Within.nil _, same_nil_iff.mpr ?_⟩
        simp
      | inr zero =>
        rw [zero]
        exact ⟨within, whole⟩
    rw [fragments]
    refine ⟨head.1.append_right _, (same_append_right_iff head.1).trans ?_⟩
    rw [forall_mem_map]
    refine and_congr (iff_of_true head.2 ?_) Iff.rfl
    rintro fragment ⟨⟩
    exact inPlace

theorem firstCall_said {number : Int} (other : number ≠ 0) (calls : Calls)
    (toolCalls : List ToolCallResponse) :
    said (.call number) (calls.firstCall toolCalls).events = [] := by
  cases toolCalls with
  | nil => rfl
  | cons =>
    simp only [firstCall, argue]
    split
    · rfl
    · split
      · rfl
      · rw [said_one, if_neg]
        exact fun same => other (Channel.call.inj same).symm

/-- A misplaced fragment is missing where it belongs. -/
theorem first_lost {delta : ChoiceDelta} (misplaced : delta.Misplaced) :
    (∃ channel, (said channel (first {} delta).events).length <
      (said channel delta.pieces).length) ∧ ¬ delta.WholeFirst := by
  obtain ⟨fragment, head, arguments, number⟩ := misplaced
  obtain ⟨_, fragments⟩ := head?_eq_some_iff.mp head
  refine ⟨⟨.call fragment.1, ?_⟩, ?_⟩
  · have nothing : said (.call fragment.1) (first {} delta).events = [] := by
      rw [first, andThen_events, said_append, firstCall_said number]
      match delta.speech with
      | none | some (.text _) | some (.thinking _) => rfl
    have own : 0 < fragment.2.arguments.toList.length :=
      length_pos_of_ne_nil (mt String.toList_eq_nil_iff.mp arguments)
    rw [nothing, ChoiceDelta.pieces, fragments, map_cons, append_assoc, cons_append,
      ← singleton_append, said_append, said_one, if_pos rfl, length_append]
    exact Nat.lt_of_lt_of_le own (Nat.le_add_right _ _)
  · rintro ⟨⟨inPlace, -⟩, -⟩
    exact (inPlace fragment head).elim arguments number

/-! ## Whole streams -/

section Steps

variable {response : StreamResponse} {choice : StreamChoice} {others : List StreamChoice}

theorem choices_same {delivered : List (Channel × String)} {own : Prop}
    (within : Within delivered choice.delta.pieces)
    (same : Same delivered choice.delta.pieces ↔ own)
    (choices : response.choices = choice :: others) :
    Within delivered response.pieces ∧
      (Same delivered response.pieces ↔ own ∧ ∀ other ∈ others, other.delta.Empty) := by
  have empty : (∀ piece ∈ others.flatMap fun other => other.delta.pieces, piece.2 = "") ↔
      ∀ other ∈ others, other.delta.Empty := by
    rw [forall_mem_flatMap]
    exact forall₂_congr fun other _ => (other.delta.empty_iff.trans same_nil_iff).symm
  rw [pieces, choices, flatMap_cons]
  refine ⟨within.append_right _, ?_⟩
  rw [same_append_right_iff within, same, empty]

theorem Delivery.whole_choice {state : Delivery} {stored : Option Usage}
    (choices : response.choices = choice :: others) :
    state.Whole (stored, response) ↔
      (if state.closed || state.begun && choice.isFinished && response.usage.isNone then
          choice.delta.Empty
        else if state.begun then state.calls.Whole choice.delta
        else choice.delta.WholeFirst) ∧ ∀ other ∈ others, other.delta.Empty := by
  rw [Delivery.Whole, choices]
  refine and_congr ⟨fun all => all choice rfl, ?_⟩ Iff.rfl
  rintro whole chosen ⟨⟩
  exact whole

theorem Delivery.step_same {state : Delivery} (begun : state.begun = true)
    (input : Option Usage × StreamResponse) :
    Within (state.step input).events input.2.pieces ∧
      (Same (state.step input).events input.2.pieces ↔ state.Whole input) := by
  obtain ⟨stored, response⟩ := input
  cases choices : response.choices with
  | nil =>
    have silent : (state.step (stored, response)).events = [] := by
      simp only [step, choices]
      split
      · rfl
      · rfl
    have none : response.pieces = [] := by rw [pieces, choices, flatMap_nil]
    rw [silent, none, Delivery.Whole, choices]
    exact ⟨Within.nil _, iff_of_true (Same.refl _) ⟨nofun, nofun⟩⟩
  | cons choice =>
    rw [whole_choice choices]
    simp only [step, choices, begun, Bool.true_and, if_true]
    cases state.closed with
    | true => exact choices_same (Within.nil _) choice.delta.empty_iff.symm choices
    | false =>
      by_cases waits : (choice.isFinished && response.usage.isNone) = true
      · simp only [waits, Bool.false_or, if_true]
        exact choices_same (Within.nil _) choice.delta.empty_iff.symm choices
      · simp only [waits, Bool.false_or, Bool.false_eq_true, if_false]
        obtain ⟨within, same⟩ := delta_same state.calls choice.delta
        exact choices_same within same choices

/-- The first chunk is like the others, unless a fragment is misplaced in it. -/
theorem Delivery.first_step_same (input : Option Usage × StreamResponse) :
    (Within (step {} input).events input.2.pieces ∧
        (Same (step {} input).events input.2.pieces ↔ Delivery.Whole {} input)) ∨
      (∃ channel, (said channel (step {} input).events).length <
        (said channel input.2.pieces).length) ∧ ¬ Delivery.Whole {} input := by
  obtain ⟨_, response⟩ := input
  cases choices : response.choices with
  | nil =>
    have none : response.pieces = [] := by rw [pieces, choices, flatMap_nil]
    rw [Delivery.Whole, choices]
    simp only [step, choices, none]
    exact .inl ⟨Within.nil _, iff_of_true (Same.refl _) ⟨nofun, nofun⟩⟩
  | cons choice =>
    rw [whole_choice choices]
    simp only [step, choices, Bool.false_and, Bool.false_or, Bool.false_eq_true, if_false]
    by_cases misplaced : choice.delta.Misplaced
    · obtain ⟨⟨channel, lost⟩, notWhole⟩ := first_lost misplaced
      refine .inr ⟨⟨channel, ?_⟩, fun whole => notWhole whole.1⟩
      rw [pieces, choices, flatMap_cons, said_append, length_append]
      exact Nat.lt_of_lt_of_le lost (Nat.le_add_right _ _)
    · obtain ⟨within, same⟩ := first_same misplaced
      exact .inl (choices_same within same choices)

end Steps

theorem Delivery.step_begun (state : Delivery) (input : Option Usage × StreamResponse) :
    (state.step input).state.begun = true := by
  simp only [step]
  split
  · rfl
  split
  · rfl
  · split
    · rfl
    · rfl

/-- The state after a chunk. -/
def Delivery.next (state : Delivery) (input : Option Usage × StreamResponse) : Delivery :=
  (state.step input).state

/-- A stream loses no content exactly when each of its chunks is delivered whole. -/
theorem content_kept_iff (estimatePromptTokens : Int)
    (inputs : List (Option Usage × StreamResponse)) :
    ContentKept estimatePromptTokens inputs ↔ Along Delivery.Whole next {} inputs := by
  rw [ContentKept, transduce_refines (fun _ _ _ input mirrors => mirrors.convert input)
    (mirrors_start _) inputs]
  cases inputs with
  | nil => exact iff_of_true (Same.refl _) trivial
  | cons input inputs =>
    obtain ⟨within, same⟩ := @transduce_same_iff _ _ _ _ step
      (fun input => input.2.pieces) (fun state => state.begun = true) Delivery.Whole
      (fun state input _ => state.step_begun input)
      (fun state input begun => (step_same begun input).1)
      (fun state input begun => (step_same begun input).2)
      _ (step_begun {} input) inputs
    rw [transduce_cons, andThen_events, flatMap_cons, along_cons]
    cases first_step_same input with
    | inl aligned =>
      rw [same_append_iff aligned.1 within, aligned.2, same]
      rfl
    | inr misplaced =>
      obtain ⟨⟨_, lost⟩, notWhole⟩ := misplaced
      exact iff_of_false (not_same_of_lost lost within) fun whole => notWhole whole.1

example : Along Delivery.Whole next {} parallelCalls := by decide +kernel

def reasoningWithText : List (Option Usage × StreamResponse) :=
  [textChunk "",
    (none, { choices := [{ delta := { content := some "so", reasoning := some "why" } }] }),
    (some {}, { choices := [{ finishReason := some "stop" }], usage := some {} })]

/-- The chunk with the finish reason carries the last word and no usage. -/
def textWhileFinishing : List (Option Usage × StreamResponse) :=
  [textChunk "the", (none, { choices := [{ delta := { content := some "end" },
                                           finishReason := some "stop" }] })]

def callAroundText : List (Option Usage × StreamResponse) :=
  [textChunk "", toolChunk [⟨some 0, "call_0", "search", "que"⟩] none, textChunk "wait",
    toolChunk [⟨some 0, "", "", "ry"⟩] none, toolChunk [] (some "tool_calls")]

def twoCallsWithArguments : List (Option Usage × StreamResponse) :=
  [toolChunk [⟨some 0, "call_0", "search", "query"⟩, ⟨some 1, "call_1", "read", "path"⟩] none,
    toolChunk [] (some "tool_calls")]

/-- Each of these streams ends with a finish reason, and some of its content is lost. -/
theorem content_lost :
    [reasoningWithText, textWhileFinishing, callAroundText, twoCallsWithArguments].Forall
      fun inputs =>
        (inputs.getLast?.any fun last => last.2.isFinished) ∧ ¬ ContentKept 0 inputs := by
  have lost : ∀ inputs ∈
        [reasoningWithText, textWhileFinishing, callAroundText, twoCallsWithArguments],
      (inputs.getLast?.any fun last => last.2.isFinished) ∧
        ∃ channel ∈ [Channel.text, .thinking, .call 0, .call 1],
          said channel (transduce Reader.read {}
              (transduce convert {} inputs).events).events ≠
            said channel (inputs.flatMap fun input => input.2.pieces) := by
    decide +kernel
  refine forall_iff_forall_mem.mpr fun inputs member => ?_
  obtain ⟨finished, channel, -, differs⟩ := lost inputs member
  exact ⟨finished, fun kept => differs (kept channel)⟩

end StuHelper.Relay
