import Mathlib.Data.List.Nodup
import StuHelper.Relay.Claude

/-!
# The protocol of content blocks

A client follows the blocks of a message by their indices: a block is started with the next
index, takes deltas of its own type and is stopped once.  `BlockState` is the client's side
of the protocol.  The converter keeps no list of open blocks; `RelayInfo.blocks` reads one
off its counters, and every step of the converter is shown to lead the client from one
reading to the next.

The counters know the tool calls of one phase only, while the upstream numbers the tool
calls of the whole message.
-/

namespace StuHelper.Relay

open RelayInfo List

variable {base : Int} {info : RelayInfo} {opened after : Nat} {fragment : Int × ToolCallResponse}
  {response : StreamResponse} {speech : Speech} {maxOffset : Int}

open Lib

/-! ## The client -/

inductive BlockType where
  | text
  | thinking
  | tool
  deriving DecidableEq, Repr

def ContentBlock.type : ContentBlock → BlockType
  | .text => .text
  | .thinking => .thinking
  | .toolUse _ _ => .tool

def BlockDelta.type : BlockDelta → BlockType
  | .text _ => .text
  | .thinking _ => .thinking
  | .inputJson _ => .tool

structure BlockState where
  next : Int := 0
  opened : List (Int × BlockType) := []
  deriving DecidableEq, Repr

open BlockState

/-- The events that the protocol allows. -/
def BlockState.accept (state : BlockState) : ClaudeResponse → Option BlockState
  | .contentBlockStart index contentBlock =>
    if index = state.next then
      some ⟨state.next + 1, state.opened ++ [(index, contentBlock.type)]⟩
    else none
  | .contentBlockDelta index delta =>
    if (index, delta.type) ∈ state.opened then some state else none
  | .contentBlockStop index =>
    if index ∈ state.opened.map Prod.fst then
      some { state with opened := state.opened.filter fun block => block.1 ≠ index }
    else none
  | .messageStart _ _ _ | .messageDelta _ _ | .messageStop => some state

def ObeysProtocol (events : List ClaudeResponse) : Prop :=
  (events.foldlM accept {}).isSome

instance (events : List ClaudeResponse) : Decidable (ObeysProtocol events) :=
  inferInstanceAs (Decidable (_ = _))

theorem follows_stops (next : Int) {blocks : List (Int × BlockType)}
    (nodup : (blocks.map Prod.fst).Nodup) :
    Follows accept ⟨next, blocks⟩
      (blocks.map fun block => .contentBlockStop block.1) ⟨next, []⟩ := by
  induction blocks with
  | nil => exact Follows.nil
  | cons block blocks ih =>
    obtain ⟨fresh, rest⟩ := nodup_cons.mp nodup
    have others : blocks.filter (fun other => other.1 ≠ block.1) = blocks := by
      rw [filter_eq_self]
      intro other member
      have distinct : other.1 ≠ block.1 := fun same =>
        fresh (same ▸ mem_map_of_mem member)
      simpa using distinct
    apply Follows.cons _ (ih rest)
    simp only [accept, map_cons, mem_cons_self, if_true,
      filter_cons, ne_eq, not_true, decide_false, Bool.false_eq_true, if_false]
    rw [others]

/-! ## The blocks of the converter -/

/-- The first blocks of a phase of tools. -/
def toolBlocks (base : Int) (count : Nat) : List (Int × BlockType) :=
  (range count).map fun (offset : Nat) => (base + offset, .tool)

theorem mem_toolBlocks {count : Nat} {offset : Int} (low : 0 ≤ offset) (high : offset < count) :
    (base + offset, BlockType.tool) ∈ toolBlocks base count := by
  have within : offset.toNat ∈ range count := mem_range.mpr (by omega)
  have listed := mem_map_of_mem (f := fun (i : Nat) => (base + i, BlockType.tool)) within
  rwa [Int.toNat_of_nonneg low] at listed

namespace RelayInfo

def openBlocks (info : RelayInfo) : List (Int × BlockType) :=
  match info.lastMessagesType with
  | .none => []
  | .text => [(info.index, .text)]
  | .thinking => [(info.index, .thinking)]
  | .tools => toolBlocks info.toolCallBaseIndex (info.toolCallMaxIndexOffset + 1).toNat

def nextIndex (info : RelayInfo) : Int :=
  match info.lastMessagesType with
  | .none => info.index
  | .text | .thinking => info.index + 1
  | .tools => info.toolCallBaseIndex + info.toolCallMaxIndexOffset + 1

/-- The client's side, read off the counters. -/
def blocks (info : RelayInfo) : BlockState :=
  ⟨info.nextIndex, if info.done then [] else info.openBlocks⟩

theorem blocks_of_open (isOpen : info.done = false) :
    info.blocks = ⟨info.nextIndex, info.openBlocks⟩ := by
  simp [blocks, isOpen]

end RelayInfo

theorem openBlocks_nodup (info : RelayInfo) : (info.openBlocks.map Prod.fst).Nodup := by
  unfold openBlocks
  split
  · exact nodup_nil
  · exact nodup_singleton _
  · exact nodup_singleton _
  · rw [toolBlocks, map_map]
    apply List.Nodup.map _ nodup_range
    intro left right same
    exact Int.ofNat_inj.mp (Int.add_left_cancel same)

theorem stopOpenBlocks_eq (info : RelayInfo) :
    stopOpenBlocks info = info.openBlocks.map fun block => .contentBlockStop block.1 := by
  unfold stopOpenBlocks openBlocks
  cases info.lastMessagesType with
  | none | text | thinking => rfl
  | tools =>
    rw [toolBlocks, map_map]
    rfl

theorem stopOpenBlocks_follows (isOpen : info.done = false) :
    Follows accept info.blocks (stopOpenBlocks info) ⟨info.nextIndex, []⟩ := by
  rw [blocks_of_open isOpen, stopOpenBlocks_eq]
  exact follows_stops info.nextIndex (openBlocks_nodup info)

theorem stopOpenBlocksAndAdvance_events (info : RelayInfo) :
    (stopOpenBlocksAndAdvance info).events = stopOpenBlocks info := by
  cases last : info.lastMessagesType with
  | none => simp [stopOpenBlocksAndAdvance, stopOpenBlocks, last]
  | text | thinking | tools => simp [stopOpenBlocksAndAdvance, last]

theorem stopOpenBlocksAndAdvance_state (info : RelayInfo) :
    (stopOpenBlocksAndAdvance info).state.lastMessagesType = .none ∧
      (stopOpenBlocksAndAdvance info).state.index = info.nextIndex := by
  cases last : info.lastMessagesType with
  | none | text | thinking | tools => simp [stopOpenBlocksAndAdvance, nextIndex, last]

theorem sendSpeech_same (last : info.lastMessagesType = speech.type) :
    sendSpeech speech info = ⟨[.contentBlockDelta info.index speech.delta], info⟩ := by
  rw [sendSpeech, if_neg (not_not.mpr last), ← last]
  rfl

theorem sendSpeech_other (other : info.lastMessagesType ≠ speech.type) :
    sendSpeech speech info =
      ⟨stopOpenBlocks info ++ [.contentBlockStart info.nextIndex speech.block,
          .contentBlockDelta info.nextIndex speech.delta],
        { (stopOpenBlocksAndAdvance info).state with lastMessagesType := speech.type }⟩ := by
  simp [sendSpeech, other, Out.andThen, stopOpenBlocksAndAdvance_events,
    (stopOpenBlocksAndAdvance_state info).2]

theorem enterTools_same (last : info.lastMessagesType = .tools) :
    enterTools info = .silent info := by
  simp [enterTools, last]

theorem enterTools_other (other : info.lastMessagesType ≠ .tools) :
    enterTools info =
      ⟨stopOpenBlocks info,
        { (stopOpenBlocksAndAdvance info).state with
          toolCallBaseIndex := info.nextIndex
          toolCallMaxIndexOffset := 0
          lastMessagesType := .tools }⟩ := by
  simp [enterTools, other, Out.andThen, stopOpenBlocksAndAdvance_events,
    (stopOpenBlocksAndAdvance_state info).2]

/-! ## Text and reasoning -/

def Speech.blockType (speech : Speech) : BlockType := speech.block.type

theorem Speech.openBlocks (last : info.lastMessagesType = speech.type) :
    info.openBlocks = [(info.index, speech.blockType)] ∧ info.nextIndex = info.index + 1 := by
  cases speech with
  | text | thinking => simp_all [openBlocks, nextIndex, Speech.type,
      Speech.blockType, Speech.block, ContentBlock.type]

theorem Speech.type_ne_tools (speech : Speech) : speech.type ≠ .tools := by
  cases speech with
  | text | thinking => exact nofun

theorem accept_delta (index next : Int) (speech : Speech) :
    accept ⟨next, [(index, speech.blockType)]⟩ (.contentBlockDelta index speech.delta) =
      some ⟨next, [(index, speech.blockType)]⟩ := by
  cases speech with
  | text | thinking => simp [accept, Speech.delta, Speech.blockType, BlockDelta.type, Speech.block,
      ContentBlock.type]

theorem blocks_of_speech (isOpen : info.done = false) (last : info.lastMessagesType = speech.type) :
    info.blocks = ⟨info.index + 1, [(info.index, speech.blockType)]⟩ := by
  obtain ⟨blocks, next⟩ := Speech.openBlocks last
  rw [blocks_of_open isOpen, blocks, next]

theorem sendSpeech_follows (speech : Speech) (isOpen : info.done = false) :
    Follows accept info.blocks (sendSpeech speech info).events
      (sendSpeech speech info).state.blocks := by
  by_cases last : info.lastMessagesType = speech.type
  · rw [sendSpeech_same last, blocks_of_speech isOpen last]
    exact Follows.one (accept_delta _ _ speech)
  have stillOpen := (stopOpenBlocksAndAdvance_keeps info).done.trans isOpen
  rw [sendSpeech_other last, @blocks_of_speech
    { (stopOpenBlocksAndAdvance info).state with lastMessagesType := speech.type } speech
    stillOpen rfl, (stopOpenBlocksAndAdvance_state info).2]
  exact (stopOpenBlocks_follows isOpen).append (Follows.cons
    (by simp [accept, Speech.blockType]) (Follows.one (accept_delta _ _ speech)))

/-! ## Tool calls -/

/-- The number of tool calls of the message after a fragment: a fragment with a name is the
first one of the next tool call, the others belong to a tool call that has begun. -/
def toolCallsAfter (opened : Nat) (fragment : Int × ToolCallResponse) : Option Nat :=
  if fragment.2.name ≠ "" then
    if fragment.1 = opened then some (opened + 1) else none
  else if 0 ≤ fragment.1 ∧ fragment.1 < opened then some opened
  else none

def StreamResponse.fragments (response : StreamResponse) : List (Int × ToolCallResponse) :=
  (response.choices.head?.map fun choice => numbered choice.delta.toolCalls).getD []

/-- The number of tool calls of the message after a chunk; `none` when the chunk takes them
up out of order. -/
def StreamResponse.toolCallsAfter (response : StreamResponse) (opened : Nat) : Option Nat :=
  response.fragments.foldlM Relay.toolCallsAfter opened

theorem follows_arguments {offset : Int} (low : 0 ≤ offset) (high : offset < opened)
    (json : String) :
    Follows accept ⟨base + opened, toolBlocks base opened⟩
      (if json ≠ "" then [.contentBlockDelta (base + offset) (.inputJson json)] else [])
      ⟨base + opened, toolBlocks base opened⟩ := by
  split
  · exact Follows.one (if_pos (mem_toolBlocks low high))
  · exact Follows.nil

theorem toolCallsAfter_some (inOrder : toolCallsAfter opened fragment = some after) :
    (fragment.2.name ≠ "" ∧ fragment.1 = opened ∧ after = opened + 1) ∨
      (¬fragment.2.name ≠ "" ∧ (0 ≤ fragment.1 ∧ fragment.1 < opened) ∧ after = opened) := by
  unfold toolCallsAfter at inOrder
  split_ifs at inOrder with named first begun
  · exact .inl ⟨named, first, (Option.some.inj inOrder).symm⟩
  · exact .inr ⟨named, begun, (Option.some.inj inOrder).symm⟩

theorem toolFragment_follows (offset : maxOffset = (opened - 1 : Nat))
    (inOrder : toolCallsAfter opened fragment = some after) :
    Follows accept ⟨base + opened, toolBlocks base opened⟩
        (toolFragment base maxOffset fragment).events ⟨base + after, toolBlocks base after⟩ ∧
      (toolFragment base maxOffset fragment).state = (after - 1 : Nat) := by
  rcases toolCallsAfter_some inOrder with ⟨named, first, rfl⟩ | ⟨unnamed, ⟨low, high⟩, rfl⟩
  · simp only [toolFragment, if_pos named, first]
    constructor
    · refine Follows.append (Follows.one ?_)
        (follows_arguments (Int.natCast_nonneg _) (by omega) _)
      simp only [accept, if_true, toolBlocks, range_succ, map_append, ContentBlock.type]
      rw [Int.natCast_add, Int.add_assoc]
      rfl
    · split <;> omega
  · simp only [toolFragment, if_neg unnamed, nil_append]
    constructor
    · exact follows_arguments low high _
    · split <;> omega

theorem toolFragments_follow {fragments : List (Int × ToolCallResponse)}
    (offset : maxOffset = (opened - 1 : Nat))
    (inOrder : fragments.foldlM toolCallsAfter opened = some after) :
    Follows accept ⟨base + opened, toolBlocks base opened⟩
        (transduce (toolFragment base) maxOffset fragments).events
        ⟨base + after, toolBlocks base after⟩ ∧
      (transduce (toolFragment base) maxOffset fragments).state = (after - 1 : Nat) := by
  induction fragments generalizing maxOffset opened with
  | nil =>
    cases inOrder
    exact ⟨Follows.nil, offset⟩
  | cons fragment fragments ih =>
    obtain ⟨_, here, later⟩ := Option.bind_eq_some_iff.mp inOrder
    obtain ⟨first, kept⟩ := toolFragment_follows offset here
    obtain ⟨rest, last⟩ := ih kept later
    exact ⟨first.append rest, last⟩

theorem toolFragment_grows (base maxOffset : Int) (fragment : Int × ToolCallResponse) :
    maxOffset ≤ (toolFragment base maxOffset fragment).state ∧
      fragment.1 ≤ (toolFragment base maxOffset fragment).state := by
  simp only [toolFragment]
  split <;> omega

theorem toolFragments_grow (base maxOffset : Int) (fragments : List (Int × ToolCallResponse)) :
    maxOffset ≤ (transduce (toolFragment base) maxOffset fragments).state := by
  induction fragments generalizing maxOffset with
  | nil => exact Int.le_refl _
  | cons fragment fragments ih =>
    exact Int.le_trans (toolFragment_grows base maxOffset fragment).1 (ih _)

theorem toolCallsAfter_pos (inOrder : toolCallsAfter opened fragment = some after) :
    1 ≤ after ∧ opened ≤ after := by
  rcases toolCallsAfter_some inOrder with ⟨-, -, rfl⟩ | ⟨-, begun, rfl⟩ <;> omega

variable {fragments : List (Int × ToolCallResponse)}

theorem toolCallsAfter_mono (inOrder : fragments.foldlM toolCallsAfter opened = some after) :
    opened ≤ after := by
  induction fragments generalizing opened with
  | nil =>
    cases inOrder
    exact le_refl _
  | cons fragment fragments ih =>
    obtain ⟨_, here, later⟩ := Option.bind_eq_some_iff.mp inOrder
    exact Nat.le_trans (toolCallsAfter_pos here).2 (ih later)

theorem blocks_of_tools (isOpen : info.done = false) (last : info.lastMessagesType = .tools)
    (count : (opened : Int) = info.toolCallMaxIndexOffset + 1) :
    info.blocks = ⟨info.toolCallBaseIndex + opened, toolBlocks info.toolCallBaseIndex opened⟩ := by
  rw [blocks_of_open isOpen]
  simp only [nextIndex, openBlocks, last]
  rw [Int.add_assoc, ← count, Int.toNat_natCast]

/-- The tool calls of the phase that is open, or that begins, are all of the message. -/
def RelayInfo.HoldsTools (info : RelayInfo) (opened : Nat) : Prop :=
  info.lastMessagesType = .tools → 1 ≤ opened ∧ (opened : Int) = info.toolCallMaxIndexOffset + 1

/-- A step leads the client on, and holds the tool calls while the message is open. -/
structure RelayInfo.Leads (info : RelayInfo) (out : Out ClaudeResponse RelayInfo) (opened : Nat) :
    Prop where
  follows : Follows accept info.blocks out.events out.state.blocks
  holds : out.state.done = false → out.state.HoldsTools opened

theorem enterTools_follows (isOpen : info.done = false) (holds : info.HoldsTools opened)
    (together : opened = 0 ∨ info.lastMessagesType = .tools) :
    Follows accept info.blocks (enterTools info).events
        ⟨(enterTools info).state.toolCallBaseIndex + opened,
          toolBlocks (enterTools info).state.toolCallBaseIndex opened⟩ ∧
      (enterTools info).state.toolCallMaxIndexOffset = (opened - 1 : Nat) ∧
      (enterTools info).state.lastMessagesType = .tools := by
  by_cases last : info.lastMessagesType = .tools
  · obtain ⟨_, count⟩ := holds last
    rw [enterTools_same last, blocks_of_tools isOpen last count]
    refine ⟨Follows.nil, ?_, last⟩
    change info.toolCallMaxIndexOffset = _
    omega
  · obtain rfl := together.resolve_right last
    rw [enterTools_other last, Int.natCast_zero, Int.add_zero]
    exact ⟨stopOpenBlocks_follows isOpen, rfl, rfl⟩

theorem sendToolCalls_follows {toolCalls : List ToolCallResponse} (isOpen : info.done = false)
    (holds : info.HoldsTools opened) (together : opened = 0 ∨ info.lastMessagesType = .tools)
    (some : toolCalls ≠ [])
    (inOrder : (numbered toolCalls).foldlM toolCallsAfter opened = .some after) :
    info.Leads (sendToolCalls toolCalls info) after := by
  obtain ⟨entered, offset, last⟩ := enterTools_follows isOpen holds together
  have stillOpen : (enterTools info).state.done = false := (enterTools_keeps info).done.trans isOpen
  obtain ⟨sent, maxOffset⟩ := @toolFragments_follow
    (enterTools info).state.toolCallBaseIndex _ _ _ _ offset inOrder
  have begun : 1 ≤ after := by
    cases calls : numbered toolCalls with
    | nil => exact absurd (mapIdx_eq_nil_iff.mp calls) some
    | cons =>
      rw [calls] at inOrder
      obtain ⟨_, here, later⟩ := Option.bind_eq_some_iff.mp inOrder
      exact Nat.le_trans (toolCallsAfter_pos here).1 (toolCallsAfter_mono later)
  have count : (after : Int) = (sendToolCalls toolCalls info).state.toolCallMaxIndexOffset + 1 := by
    change (after : Int) = (transduce _ _ _).state + 1
    omega
  refine ⟨?_, fun _ _ => ⟨begun, count⟩⟩
  rw [@blocks_of_tools (sendToolCalls toolCalls info).state after stillOpen last count]
  exact entered.append sent

/-! ## Chunks -/

theorem sendDelta_follows {delta : ChoiceDelta} (isOpen : info.done = false)
    (holds : info.HoldsTools opened)
    (together : delta.toolCalls = [] ∨ opened = 0 ∨ info.lastMessagesType = .tools)
    (inOrder : (numbered delta.toolCalls).foldlM toolCallsAfter opened = some after) :
    info.Leads (sendDelta delta info) after := by
  unfold sendDelta
  split
  next some => exact sendToolCalls_follows isOpen holds (together.resolve_left some) some inOrder
  rename_i none
  rw [not_not.mp none] at inOrder
  cases inOrder
  cases delta.speech with
  | none => exact ⟨Follows.nil, fun _ => holds⟩
  | some speech =>
    exact ⟨sendSpeech_follows speech isOpen, fun _ last => absurd last speech.type_ne_tools⟩

theorem finishMessage_follows (response : StreamResponse) (isOpen : info.done = false) :
    Follows accept info.blocks (finishMessage response info).events
      (finishMessage response info).state.blocks := by
  apply Follows.append _ (Follows.one rfl)
  apply Follows.append (stopOpenBlocks_follows isOpen)
  cases response.usage.or info.usage with
  | none => exact Follows.nil
  | some => exact Follows.one rfl

/-! ## The first chunk -/

theorem firstToolCall_quiet (response : StreamResponse) (last : info.lastMessagesType = .none)
    (speech : Speech) : (firstToolCall response info).state.lastMessagesType ≠ speech.type := by
  unfold firstToolCall
  split
  · rw [Out.silent_state, last]
    cases speech with
    | text | thinking => exact nofun
  · cases speech with
    | text | thinking => exact nofun

theorem firstToolCall_silent (none : response.getFirstToolCall = .none) :
    firstToolCall response info = .silent info := by
  simp [firstToolCall, none]

theorem firstToolCall_state {toolCall : ToolCallResponse}
    (first : response.getFirstToolCall = some toolCall) :
    (firstToolCall response info).state =
      { info with lastMessagesType := .tools, toolCallBaseIndex := 0,
                  toolCallMaxIndexOffset := 0 } := by
  simp [firstToolCall, first]

theorem firstToolCall_follows (isOpen : info.done = false) (last : info.lastMessagesType = .none)
    (index : info.index = 0) (inOrder : response.toolCallsAfter 0 = some after) (few : after ≤ 1) :
    info.Leads (firstToolCall response info) after := by
  have start : info.blocks = ⟨0, []⟩ := by
    rw [blocks_of_open isOpen]
    simp [nextIndex, openBlocks, last, index]
  cases first : response.getFirstToolCall with
  | none =>
    rw [firstToolCall_silent first]
    refine ⟨Follows.nil, fun _ tools => ?_⟩
    rw [Out.silent_state, last] at tools
    cases tools
  | some toolCall =>
    have one : after = 1 := by
      obtain ⟨_, chosen, called⟩ := Option.bind_eq_some_iff.mp first
      obtain ⟨others, calls⟩ := head?_eq_some_iff.mp called
      have fragments : response.fragments = (toolCall.index.getD 0, toolCall) ::
            others.mapIdx fun i call => (call.index.getD (i + 1 : Nat), call) := by
        simp [StreamResponse.fragments, chosen, numbered, calls]
      rw [StreamResponse.toolCallsAfter, fragments] at inOrder
      obtain ⟨_, here, later⟩ := Option.bind_eq_some_iff.mp inOrder
      have begun := toolCallsAfter_mono later
      rcases toolCallsAfter_some here with ⟨-, -, rfl⟩ | ⟨-, low, rfl⟩
      · exact le_antisymm few begun
      · omega
    subst one
    have blocks : (firstToolCall response info).state.blocks = ⟨1, toolBlocks 0 1⟩ := by
      rw [firstToolCall_state first]
      exact @blocks_of_tools { info with lastMessagesType := .tools, toolCallBaseIndex := 0,
                                         toolCallMaxIndexOffset := 0 } 1 isOpen rfl rfl
    refine ⟨?_, fun _ _ => ⟨le_rfl, ?_⟩⟩
    · rw [start, blocks]
      simp only [firstToolCall, first]
      apply Follows.cons rfl
      exact @follows_arguments 0 1 0 (Int.le_refl 0) Int.one_pos toolCall.arguments
    · rw [firstToolCall_state first]
      rfl

/-- Where nothing of the kind is open, a first speech is sent like any other. -/
theorem firstSpeech_eq (response : StreamResponse)
    (quiet : ∀ speech : Speech, info.lastMessagesType ≠ speech.type) :
    firstSpeech response info =
      match response.choices.head?.bind fun choice => choice.delta.speech with
      | none => .silent info
      | some speech => sendSpeech speech info := by
  unfold firstSpeech
  cases response.choices.head?.bind fun choice => choice.delta.speech with
  | none => rfl
  | some speech => simp [sendSpeech, quiet speech, Out.andThen]

/-- The text or reasoning of a first chunk opens a block of its own. -/
theorem firstSpeech_follows (response : StreamResponse) (isOpen : info.done = false)
    (holds : info.HoldsTools opened)
    (quiet : ∀ speech : Speech, info.lastMessagesType ≠ speech.type) :
    info.Leads (firstSpeech response info) opened := by
  rw [firstSpeech_eq response quiet]
  cases response.choices.head?.bind fun choice => choice.delta.speech with
  | none => exact ⟨Follows.nil, fun _ => holds⟩
  | some speech =>
    exact ⟨sendSpeech_follows speech isOpen, fun _ last => absurd last speech.type_ne_tools⟩

theorem firstFinish_follows (response : StreamResponse) (isOpen : info.done = false)
    (holds : info.HoldsTools opened) :
    info.Leads (firstFinish response info) opened := by
  unfold firstFinish
  cases response.choices with
  | nil => exact ⟨Follows.nil, fun _ => holds⟩
  | cons choice =>
    dsimp only
    split
    · refine ⟨?_, fun stillOpen => nomatch stillOpen⟩
      exact @finishMessage_follows
        { info with finishReason := choice.finishReason.getD "" } response isOpen
    · exact ⟨Follows.nil, fun _ => holds⟩

theorem firstResponse_follows (isOpen : info.done = false) (last : info.lastMessagesType = .none)
    (index : info.index = 0) (inOrder : response.toolCallsAfter 0 = some after) (few : after ≤ 1) :
    info.Leads (firstResponse response info) after := by
  obtain ⟨tool, holdsTool⟩ := firstToolCall_follows isOpen last index inOrder few
  have quiet := firstToolCall_quiet response last
  have openTool := (firstToolCall_keeps response info).done.trans isOpen
  obtain ⟨speech, holdsSpeech⟩ := firstSpeech_follows response openTool (holdsTool openTool) quiet
  have openSpeech := (firstSpeech_keeps response _).done.trans openTool
  obtain ⟨finish, holdsFinish⟩ := firstFinish_follows response openSpeech
    (holdsSpeech openSpeech)
  refine ⟨?_, holdsFinish⟩
  exact Follows.append (Follows.append (Follows.cons rfl tool) speech) finish

/-! ## Streams -/

/-- The converter, with the number of tool calls that the upstream has begun. -/
structure Conversion where
  info : RelayInfo := {}
  opened : Nat := 0

/-- A call of `StreamResponseOpenAI2Claude` for the next chunk.  The callers count the chunk
and may store a usage before the call. -/
def Conversion.feed (state : Conversion) (input : Option Usage × StreamResponse) :
    Out ClaudeResponse Conversion :=
  let sent := streamResponseOpenAI2Claude input.2 (state.info.receive input.1)
  ⟨sent.events, ⟨sent.state, (input.2.toolCallsAfter state.opened).getD state.opened⟩⟩

/-- The chunk takes up the tool calls in their order, and names each of them once. -/
def Conversion.InOrder (state : Conversion) (input : Option Usage × StreamResponse) : Prop :=
  (input.2.toolCallsAfter state.opened).isSome

/-- The converter keeps up with the tool calls: the first chunk begins at most one, a chunk
whose finish reason waits for a usage begins none, and the other chunks continue the tool
calls only while no other block has come between. -/
def Conversion.Together (state : Conversion) (input : Option Usage × StreamResponse) : Prop :=
  state.info.done = true ∨
    if state.info.sendResponseCount = 0 then ∀ after ∈ input.2.toolCallsAfter 0, after ≤ 1
    else if input.2.isFinished ∧ input.2.usage.isNone then
      ∀ after ∈ input.2.toolCallsAfter state.opened, after = state.opened
    else input.2.fragments = [] ∨ state.opened = 0 ∨ state.info.lastMessagesType = .tools

instance (state : Conversion) (input : Option Usage × StreamResponse) :
    Decidable (state.InOrder input) :=
  inferInstanceAs (Decidable (_ = true))

instance (state : Conversion) (input : Option Usage × StreamResponse) :
    Decidable (state.Together input) :=
  inferInstanceAs (Decidable (_ ∨ ite _ _ _))

/-- What the calls keep. -/
structure Conversion.Inv (state : Conversion) : Prop where
  fresh : state.info.sendResponseCount = 0 →
    state.info.lastMessagesType = .none ∧ state.info.index = 0 ∧ state.opened = 0
  tools : state.info.done = false → state.info.HoldsTools state.opened

section Choice

variable {choice : StreamChoice} {others : List StreamChoice}

theorem StreamResponse.isFinished_of_choice (choices : response.choices = choice :: others) :
    response.isFinished = choice.isFinished := by
  simp [StreamResponse.isFinished, choices]

theorem StreamResponse.fragments_of_choice (choices : response.choices = choice :: others) :
    response.fragments = numbered choice.delta.toolCalls := by
  simp [StreamResponse.fragments, choices]

end Choice

theorem laterResponse_follows (isOpen : info.done = false) (later : info.sendResponseCount ≠ 1)
    (holds : info.HoldsTools opened) (inOrder : response.toolCallsAfter opened = some after)
    (together : if response.isFinished ∧ response.usage.isNone then after = opened
      else response.fragments = [] ∨ opened = 0 ∨ info.lastMessagesType = .tools) :
    info.Leads (streamResponseOpenAI2Claude response info) after := by
  cases choices : response.choices with
  | nil =>
    have none : response.fragments = [] := by simp [StreamResponse.fragments, choices]
    rw [StreamResponse.toolCallsAfter, none] at inOrder
    cases inOrder
    rw [streamResponseOpenAI2Claude_usage isOpen later choices]
    unfold usageResponse
    cases response.usage.or info.usage with
    | none => exact ⟨Follows.nil, fun _ => holds⟩
    | some =>
      refine ⟨?_, fun stillOpen => nomatch stillOpen⟩
      exact (stopOpenBlocks_follows isOpen).append (Follows.cons rfl (Follows.one rfl))
  | cons choice =>
    have fragments := StreamResponse.fragments_of_choice choices
    have finished := StreamResponse.isFinished_of_choice choices
    rw [StreamResponse.toolCallsAfter, fragments] at inOrder
    rw [finished, fragments, numbered, mapIdx_eq_nil_iff] at together
    rw [streamResponseOpenAI2Claude_choice isOpen later choices]
    by_cases ends : choice.isFinished = true
    · rw [if_pos ends]
      by_cases waits : response.usage.isNone = true
      · rw [if_pos waits]
        rw [if_pos ⟨ends, waits⟩] at together
        subst together
        exact ⟨Follows.nil, fun _ => holds⟩
      · rw [if_neg waits]
        rw [if_neg fun both => waits both.2] at together
        obtain ⟨sent, -⟩ := @sendDelta_follows
          { info with finishReason := choice.finishReason.getD "" } _ _ _ isOpen holds together
          inOrder
        have stillOpen := (sendDelta_keeps choice.delta
          { info with finishReason := choice.finishReason.getD "" }).done.trans isOpen
        exact ⟨sent.append (finishMessage_follows response stillOpen),
          fun notDone => nomatch notDone⟩
    · rw [if_neg ends]
      rw [if_neg fun both => ends both.1] at together
      exact sendDelta_follows isOpen holds together inOrder

theorem Conversion.feed_follows (state : Conversion) (input : Option Usage × StreamResponse)
    (inv : state.Inv) (ok : state.InOrder input ∧ state.Together input) :
    (state.feed input).state.Inv ∧ Follows accept state.info.blocks (state.feed input).events
        (state.feed input).state.info.blocks := by
  obtain ⟨stored, response⟩ := input
  obtain ⟨inOrder, together⟩ := ok
  obtain ⟨after, inOrder⟩ := Option.isSome_iff_exists.mp inOrder
  have opened : (state.feed (stored, response)).state.opened = after := by
    simp only [Conversion.feed]
    rw [inOrder]
    rfl
  have counted : (state.feed (stored, response)).state.info.sendResponseCount ≠ 0 := by
    have count := streamResponseOpenAI2Claude_count response (state.info.receive stored)
    exact fun none => Nat.succ_ne_zero _ (count.symm.trans none)
  -- it remains to see where the call leaves the client and the tools
  suffices step : (state.info.receive stored).Leads
      (streamResponseOpenAI2Claude response (state.info.receive stored)) after by
    refine ⟨⟨fun none => absurd none counted, fun notDone => ?_⟩, step.follows⟩
    rw [opened]
    exact step.holds notDone
  cases isOpen : state.info.done with
  | true =>
    have ended : (state.info.receive stored).done = true := isOpen
    rw [streamResponseOpenAI2Claude_done ended]
    refine ⟨Follows.nil, fun notDone => ?_⟩
    cases isOpen.symm.trans notDone
  | false =>
    have stillOpen : (state.info.receive stored).done = false := isOpen
    have together := together.resolve_left (Bool.eq_false_iff.mp isOpen)
    by_cases first : state.info.sendResponseCount = 0
    · obtain ⟨last, index, none⟩ := inv.fresh first
      rw [if_pos first] at together
      rw [none] at inOrder
      have one : (state.info.receive stored).sendResponseCount = 1 := congrArg (· + 1) first
      rw [streamResponseOpenAI2Claude_first stillOpen one]
      exact firstResponse_follows stillOpen last index inOrder (together after inOrder)
    · rw [if_neg first] at together
      have later : (state.info.receive stored).sendResponseCount ≠ 1 :=
        fun one => first (Nat.succ.inj one)
      have holds : (state.info.receive stored).HoldsTools state.opened := inv.tools isOpen
      apply laterResponse_follows stillOpen later holds inOrder
      split at together
      next waits =>
        rw [if_pos waits]
        exact together after inOrder
      next waits =>
        rw [if_neg waits]
        exact together

/-- The converter before the first chunk. -/
def Conversion.start (estimatePromptTokens : Int) : Conversion :=
  { info := { estimatePromptTokens := estimatePromptTokens } }

/-- The state after a call. -/
def Conversion.next (state : Conversion) (input : Option Usage × StreamResponse) : Conversion :=
  (state.feed input).state

/-- As long as the converter keeps up with the tool calls, the events obey the protocol. -/
theorem blocks_obey_protocol (estimatePromptTokens : Int)
    (inputs : List (Option Usage × StreamResponse))
    (inOrder : Along Conversion.InOrder Conversion.next (.start estimatePromptTokens) inputs)
    (together : Along Conversion.Together Conversion.next (.start estimatePromptTokens) inputs) :
    ObeysProtocol (transduce Conversion.feed (.start estimatePromptTokens) inputs).events := by
  have initially : (Conversion.start estimatePromptTokens).Inv :=
    ⟨fun _ => ⟨rfl, rfl, rfl⟩, fun _ tools => nomatch tools⟩
  have followed := transduce_follows Conversion.feed_follows initially (along_and inOrder together)
  exact Option.isSome_iff_exists.mpr ⟨_, followed⟩

def toolChunk (toolCalls : List ToolCallResponse) (finishReason : Option String) :
    Option Usage × StreamResponse :=
  (none, { choices := [{ delta := { toolCalls := toolCalls }, finishReason := finishReason }] })

def textChunk (text : String) : Option Usage × StreamResponse :=
  (none, { choices := [{ delta := { content := some text } }] })

def twoCallsAtOnce : List (Option Usage × StreamResponse) :=
  [toolChunk [⟨some 0, "call_0", "search", ""⟩, ⟨some 1, "call_1", "read", ""⟩] none,
    toolChunk [⟨some 1, "", "", "path"⟩] none]

def textBetweenCalls : List (Option Usage × StreamResponse) :=
  [textChunk "", toolChunk [⟨some 0, "call_0", "search", "query"⟩] none, textChunk "next",
    toolChunk [⟨some 1, "call_1", "read", "path"⟩] none]

def callWhileFinishing : List (Option Usage × StreamResponse) :=
  [textChunk "", toolChunk [⟨some 0, "call_0", "search", ""⟩] (some "tool_calls"),
    toolChunk [⟨some 0, "", "", "query"⟩] none]

/-- Each of the three streams takes up its tool calls in order, and the events break the
protocol: a delta for a block that has not started, an index left out, and again a delta
without a block. -/
theorem blocks_break_protocol :
    [twoCallsAtOnce, textBetweenCalls, callWhileFinishing].Forall fun inputs =>
      Along Conversion.InOrder Conversion.next (.start 0) inputs ∧
        ¬ ObeysProtocol (transduce Conversion.feed (.start 0) inputs).events := by
  decide +kernel

/-- Reasoning, text and two tool calls that are continued in turn, to the end. -/
def parallelCalls : List (Option Usage × StreamResponse) :=
  [(none, { choices := [{ delta := { reasoning := some "why" } }] }), textChunk "so",
    toolChunk [⟨some 0, "call_0", "search", ""⟩, ⟨some 1, "call_1", "read", "p"⟩] none,
    toolChunk [⟨some 0, "", "", "query"⟩, ⟨some 1, "", "", "ath"⟩] none,
    toolChunk [] (some "tool_calls"), (some {}, { usage := some {} })]

theorem parallel_calls_obey_protocol :
    (transduce Conversion.feed (.start 0) parallelCalls).state.info.done = true ∧
      ObeysProtocol (transduce Conversion.feed (.start 0) parallelCalls).events :=
  ⟨by decide +kernel, blocks_obey_protocol 0 parallelCalls (by decide +kernel) (by decide +kernel)⟩

end StuHelper.Relay
