import StuHelper.Relay.Blocks
import StuHelper.Relay.Responses

/-!
# How a message ends

A message is finished when its events begin with the one `message_start`, end with the one
`message_stop` after a `message_delta` with a stop reason, and leave no block open.

Whether that happens depends on where the finish reason and the usage stand.  The first
chunk closes the message at once.  A later chunk with a finish reason closes it only with a
usage of its own, and a chunk without choices when any usage is known, which at the last
chunk is always the case.
-/

namespace StuHelper.Relay

open StreamResponse ClaudeResponse RelayInfo List

variable {event : ClaudeResponse} {info : RelayInfo} {opened : List Int} {before : Bool}
  {base maxOffset index : Int} {result : Option Bool} {stopReason : String}

open Lib

/-! ## Finished messages -/

/-- The event is about a content block. -/
def ClaudeResponse.isBlock : ClaudeResponse → Bool
  | .contentBlockStart _ _ | .contentBlockDelta _ _ | .contentBlockStop _ => true
  | .messageStart _ _ _ | .messageDelta _ _ | .messageStop => false

def ClaudeResponse.isMessageStart : ClaudeResponse → Bool
  | .messageStart _ _ _ => true
  | _ => false

/-- The indices of the blocks that are started and not stopped, after an event. -/
def unstoppedAfter (opened : List Int) : ClaudeResponse → List Int
  | .contentBlockStart index _ => opened ++ [index]
  | .contentBlockStop index => opened.filter fun other => other ≠ index
  | _ => opened

/-- The same, after some events. -/
def unstopped (opened : List Int) (events : List ClaudeResponse) : List Int :=
  events.foldl unstoppedAfter opened

def FinishedOnce (events : List ClaudeResponse) : Prop :=
  ∃ id model inputTokens body usage stopReason, events = .messageStart id model inputTokens ::
      (body ++ [.messageDelta usage stopReason, .messageStop]) ∧ stopReason ≠ "" ∧
    (∀ event ∈ body, event.isMessageStart = false ∧ event ≠ .messageStop) ∧ unstopped [] body = []

@[simp] theorem unstopped_nil (opened : List Int) : unstopped opened [] = opened := rfl

@[simp] theorem unstopped_append (opened : List Int) (front back : List ClaudeResponse) :
    unstopped opened (front ++ back) = unstopped (unstopped opened front) back :=
  foldl_append

theorem ClaudeResponse.isBlock.other (isBlock : event.isBlock) :
    event.isMessageStart = false ∧ event ≠ .messageStop ∧
      ∀ usage stopReason, event ≠ .messageDelta usage stopReason := by
  cases event with
  | contentBlockStart | contentBlockDelta | contentBlockStop =>
    exact ⟨rfl, ClaudeResponse.noConfusion, fun _ _ => ClaudeResponse.noConfusion⟩
  | messageStart | messageDelta | messageStop => cases isBlock

theorem finishedOnce_iff {id model : String} {inputTokens : Int} {usage : ClaudeUsage}
    {body : List ClaudeResponse} (blocks : ∀ event ∈ body, event.isBlock)
    (reason : stopReason ≠ "") :
    FinishedOnce (.messageStart id model inputTokens ::
        (body ++ [messageDelta usage stopReason, .messageStop])) ↔ unstopped [] body = [] := by
  constructor
  · rintro ⟨_, _, _, other, _, _, same, -, -, left⟩
    have bodies : body = other := (append_inj' (cons.inj same).2 rfl).1
    rwa [bodies]
  · intro left
    refine ⟨id, model, inputTokens, body, usage, stopReason, rfl, reason, ?_, left⟩
    intro event member
    obtain ⟨notStart, notStop, -⟩ := isBlock.other (blocks event member)
    exact ⟨notStart, notStop⟩

namespace FinishedOnce

variable {events : List ClaudeResponse}

theorem has_messageStop (finished : FinishedOnce events) : .messageStop ∈ events := by
  obtain ⟨_, _, _, _, _, _, rfl, -, -, -⟩ := finished
  simp

theorem has_messageDelta (finished : FinishedOnce events) :
    ∃ usage stopReason, .messageDelta usage stopReason ∈ events := by
  obtain ⟨_, _, _, _, usage, stopReason, rfl, -, -, -⟩ := finished
  exact ⟨usage, stopReason, by simp⟩

theorem one_messageStart (finished : FinishedOnce events) : events.countP isMessageStart = 1 := by
  obtain ⟨_, _, _, body, _, _, rfl, -, only, -⟩ := finished
  have none : body.countP isMessageStart = 0 := by
    rw [countP_eq_zero]
    intro event member
    rw [(only event member).1]
    exact Bool.false_ne_true
  simp [countP_cons, countP_append, none, isMessageStart]

theorem not_of_two_starts {id model otherId otherModel : String} {tokens otherTokens : Int}
    {front back : List ClaudeResponse} :
    ¬ FinishedOnce (.messageStart id model tokens ::
      (front ++ .messageStart otherId otherModel otherTokens :: back)) := by
  intro finished
  have one := finished.one_messageStart
  rw [countP_cons_of_pos rfl, countP_append, countP_cons_of_pos rfl] at one
  omega

end FinishedOnce

/-! ## Open blocks -/

theorem unstopped_stops (opened : List Int) (blocks : List (Int × BlockType)) :
    unstopped opened (blocks.map fun block => .contentBlockStop block.1) =
      opened.filter fun index => index ∉ blocks.map Prod.fst := by
  induction blocks generalizing opened with
  | nil => simp
  | cons block blocks ih =>
    change unstopped (opened.filter fun other => other ≠ block.1) _ = _
    rw [ih, filter_filter]
    apply filter_congr
    intro index member
    simp only [map_cons, mem_cons, not_or, Bool.decide_and, ne_eq]
    exact Bool.and_comm _ _

namespace RelayInfo

/-- No block that is stopped from here on has a smaller index. -/
def lowest (info : RelayInfo) : Int :=
  match info.lastMessagesType with
  | .none | .text | .thinking => info.index
  | .tools => info.toolCallBaseIndex

/-- A phase of tools has a block. -/
def Sound (info : RelayInfo) : Prop :=
  info.lastMessagesType = .tools → 0 ≤ info.toolCallMaxIndexOffset

/-- The account of the started blocks: as long as it is clean they are among the open ones,
and then there is one that will never be stopped. -/
def Account (info : RelayInfo) (clean : Bool) (opened : List Int) : Prop :=
  if clean then ∀ index ∈ opened, index ∈ info.openBlocks.map Prod.fst
  else ∃ index ∈ opened, index < info.lowest

end RelayInfo

theorem mem_openBlocks_tools (last : info.lastMessagesType = .tools) :
    index ∈ info.openBlocks.map Prod.fst ↔ info.toolCallBaseIndex ≤ index ∧
      index ≤ info.toolCallBaseIndex + info.toolCallMaxIndexOffset := by
  simp only [openBlocks, last, toolBlocks, map_map, mem_map, mem_range,
    Function.comp]
  constructor
  · rintro ⟨offset, within, rfl⟩
    omega
  · rintro ⟨low, high⟩
    exact ⟨(index - info.toolCallBaseIndex).toNat, by omega, by omega⟩

theorem lowest_le_openBlocks (info : RelayInfo)
    (member : index ∈ info.openBlocks.map Prod.fst) : info.lowest ≤ index := by
  cases last : info.lastMessagesType with
  | none => simp [openBlocks, last] at member
  | text | thinking => simp_all [openBlocks, lowest]
  | tools =>
    rw [mem_openBlocks_tools last] at member
    simpa [lowest, last] using member.1

theorem unstopped_stopOpenBlocks {clean : Bool} (account : info.Account clean opened) :
    unstopped opened (stopOpenBlocks info) = [] ↔ clean = true := by
  rw [stopOpenBlocks_eq, unstopped_stops, filter_eq_nil_iff]
  cases clean with
  | true =>
    have covered : ∀ index ∈ opened, index ∈ info.openBlocks.map Prod.fst := account
    simpa using covered
  | false =>
    obtain ⟨index, member, low⟩ : ∃ index ∈ opened, index < info.lowest := account
    simp only [Bool.false_eq_true, iff_false]
    intro none
    have listed : index ∈ info.openBlocks.map Prod.fst := by simpa using none index member
    exact absurd (lowest_le_openBlocks info listed) (Int.not_le.mpr low)

/-! ## Steps within a message -/

/-- What a step within a message does: it sends events about blocks, and the account is clean
after it if it was clean and the step is. -/
structure Proceeds (info : RelayInfo) (sent : Sent) (clean : Bool) : Prop where
  blocks : ∀ event ∈ sent.events, event.isBlock
  sound : info.Sound → sent.state.Sound
  account : info.Sound → ∀ before opened, info.Account before opened →
    sent.state.Account (before && clean) (unstopped opened sent.events)

theorem Proceeds.silent (info : RelayInfo) : Proceeds info (.silent info) true where
  blocks := forall_mem_nil _
  sound := id
  account := by
    intro sound before opened account
    rwa [Bool.and_true]

theorem Proceeds.andThen {first : Sent} {next : RelayInfo → Sent} {clean after : Bool}
    (here : Proceeds info first clean) (there : Proceeds first.state (next first.state) after) :
    Proceeds info (first.andThen next) (clean && after) where
  blocks := forall_mem_append.mpr ⟨here.blocks, there.blocks⟩
  sound := fun sound => there.sound (here.sound sound)
  account := by
    intro sound before opened account
    rw [← Bool.and_assoc, Out.andThen_events, unstopped_append]
    exact there.account (here.sound sound) _ _ (here.account sound before opened account)

theorem stopOpenBlocks_isBlock : ∀ event ∈ stopOpenBlocks info, event.isBlock := by
  rw [stopOpenBlocks_eq]
  exact forall_mem_map.mpr fun _ _ => rfl

theorem nextIndex_of_sound (sound : info.Sound) : info.lowest ≤ info.nextIndex := by
  cases last : info.lastMessagesType with
  | none => simp [lowest, nextIndex, last]
  | text | thinking =>
    simp only [lowest, nextIndex, last]
    omega
  | tools =>
    have offset := sound last
    simp only [lowest, nextIndex, last]
    omega

/-- Closing the open blocks leaves none of a clean account, and keeps one that is below all
that are stopped later. -/
theorem account_advance (sound : info.Sound) (account : info.Account before opened) :
    if before then unstopped opened (stopOpenBlocks info) = []
    else ∃ index ∈ unstopped opened (stopOpenBlocks info), index < info.nextIndex := by
  cases before with
  | true => exact (unstopped_stopOpenBlocks account).mpr rfl
  | false =>
    obtain ⟨index, member, low⟩ : ∃ index ∈ opened, index < info.lowest := account
    refine ⟨index, ?_, Int.lt_of_lt_of_le low (nextIndex_of_sound sound)⟩
    rw [stopOpenBlocks_eq, unstopped_stops, mem_filter]
    refine ⟨member, decide_eq_true ?_⟩
    intro listed
    exact absurd (lowest_le_openBlocks info listed) (Int.not_le.mpr low)

/-- After the open blocks are closed, a block of its own for a speech. -/
theorem account_speech (speech : Speech)
    (account : if before then opened = [] else ∃ index ∈ opened, index < info.index) :
    { info with lastMessagesType := speech.type }.Account before (opened ++ [info.index]) := by
  obtain ⟨blocks, -⟩ := @Speech.openBlocks { info with lastMessagesType := speech.type } speech rfl
  cases before with
  | true =>
    have none : opened = [] := account
    intro index member
    rw [blocks]
    simpa [none] using member
  | false =>
    obtain ⟨index, member, low⟩ : ∃ index ∈ opened, index < info.index := account
    refine ⟨index, mem_append_left _ member, ?_⟩
    cases speech with
    | text | thinking => exact low

theorem Speech.sound (speech : Speech) :
    { info with lastMessagesType := speech.type }.Sound := by
  intro tools
  cases speech with
  | text | thinking => cases tools

theorem sendSpeech_proceeds (speech : Speech) (info : RelayInfo) :
    Proceeds info (sendSpeech speech info) true := by
  by_cases last : info.lastMessagesType = speech.type
  · rw [sendSpeech_same last]
    refine ⟨forall_mem_singleton.mpr rfl, id, ?_⟩
    intro sound before opened account
    rwa [Bool.and_true]
  · obtain ⟨-, index⟩ := stopOpenBlocksAndAdvance_state info
    rw [sendSpeech_other last]
    refine ⟨?_, fun _ => Speech.sound speech, ?_⟩
    · exact forall_mem_append.mpr ⟨stopOpenBlocks_isBlock,
        forall_mem_cons.mpr ⟨rfl, forall_mem_singleton.mpr rfl⟩⟩
    · intro sound before opened account
      have advanced := account_advance sound account
      rw [← index] at advanced
      rw [Bool.and_true, unstopped_append, ← index]
      exact account_speech speech advanced

/-- A fragment with a name whose block lies below those of its phase. -/
def startsBelow (fragment : Int × ToolCallResponse) : Bool :=
  fragment.2.name ≠ "" && fragment.1 < 0

theorem toolFragment_isBlock (fragment : Int × ToolCallResponse) :
    ∀ event ∈ (toolFragment base maxOffset fragment).events, event.isBlock := by
  simp only [toolFragment, forall_mem_append]
  constructor
  · split
    · exact forall_mem_singleton.mpr rfl
    · exact forall_mem_nil _
  · split
    · exact forall_mem_singleton.mpr rfl
    · exact forall_mem_nil _

theorem unstopped_toolFragment (base maxOffset : Int) (fragment : Int × ToolCallResponse)
    (opened : List Int) :
    unstopped opened (toolFragment base maxOffset fragment).events =
      opened ++ if fragment.2.name ≠ "" then [base + fragment.1] else [] := by
  simp only [toolFragment, unstopped_append]
  by_cases named : fragment.2.name ≠ ""
  · rw [if_pos named, if_pos named]
    split
    · rfl
    · rfl
  · rw [if_neg named, if_neg named, append_nil]
    split
    · rfl
    · rfl

/-- The account of the fragments of a phase: the blocks lie within the offsets of the phase,
unless one is started below. -/
def PhaseAccount (base maxOffset : Int) (clean : Bool) (opened : List Int) : Prop :=
  if clean then ∀ index ∈ opened, base ≤ index ∧ index ≤ base + maxOffset
  else ∃ index ∈ opened, index < base

theorem toolFragment_account {clean : Bool} (account : PhaseAccount base maxOffset clean opened)
    (fragment : Int × ToolCallResponse) :
    PhaseAccount base (toolFragment base maxOffset fragment).state (clean && !startsBelow fragment)
      (unstopped opened (toolFragment base maxOffset fragment).events) := by
  have grows := toolFragment_grows base maxOffset fragment
  rw [unstopped_toolFragment]
  cases clean with
  | false =>
    obtain ⟨index, member, low⟩ : ∃ index ∈ opened, index < base := account
    exact ⟨index, mem_append_left _ member, low⟩
  | true =>
    have within : ∀ index ∈ opened, base ≤ index ∧ index ≤ base + maxOffset := account
    cases below : startsBelow fragment with
    | true =>
      simp only [startsBelow, Bool.and_eq_true, decide_eq_true_eq] at below
      refine ⟨base + fragment.1, ?_, by omega⟩
      rw [if_pos below.1]
      exact mem_append_right _ (mem_singleton.mpr rfl)
    | false =>
      intro index member
      cases mem_append.mp member with
      | inl old =>
        have := within index old
        omega
      | inr new =>
        split at new
        next named =>
          simp only [startsBelow, named, ne_eq, not_false_eq_true, decide_true,
            Bool.true_and, decide_eq_false_iff_not] at below
          rw [mem_singleton.mp new]
          omega
        · cases new

theorem toolFragments_account {clean : Bool} (account : PhaseAccount base maxOffset clean opened)
    (fragments : List (Int × ToolCallResponse)) :
    PhaseAccount base (transduce (toolFragment base) maxOffset fragments).state
      (clean && !fragments.any startsBelow)
      (unstopped opened (transduce (toolFragment base) maxOffset fragments).events) := by
  induction fragments generalizing maxOffset clean opened with
  | nil =>
    rw [any_nil, Bool.not_false, Bool.and_true]
    exact account
  | cons fragment fragments ih =>
    rw [transduce_cons, Out.andThen_events, Out.andThen_state, unstopped_append, any_cons,
      Bool.not_or, ← Bool.and_assoc]
    exact ih (toolFragment_account account fragment)

theorem toolFragments_isBlock (fragments : List (Int × ToolCallResponse)) :
    ∀ event ∈ (transduce (toolFragment base) maxOffset fragments).events, event.isBlock := by
  induction fragments generalizing maxOffset with
  | nil => exact forall_mem_nil _
  | cons fragment fragments ih => exact forall_mem_append.mpr ⟨toolFragment_isBlock fragment, ih⟩

theorem account_of_tools (last : info.lastMessagesType = .tools) {clean : Bool} :
    info.Account clean opened ↔
      PhaseAccount info.toolCallBaseIndex info.toolCallMaxIndexOffset clean opened := by
  cases clean with
  | true =>
    change (∀ index ∈ opened, index ∈ info.openBlocks.map Prod.fst) ↔ ∀ index ∈ opened, _
    simp only [mem_openBlocks_tools last]
  | false =>
    change (∃ index ∈ opened, index < info.lowest) ↔ ∃ index ∈ opened, _
    simp only [lowest, last]

theorem enterTools_account (sound : info.Sound) (account : info.Account before opened) :
    (enterTools info).state.lastMessagesType = .tools ∧
      0 ≤ (enterTools info).state.toolCallMaxIndexOffset ∧
      PhaseAccount (enterTools info).state.toolCallBaseIndex
        (enterTools info).state.toolCallMaxIndexOffset before
        (unstopped opened (enterTools info).events) := by
  by_cases last : info.lastMessagesType = .tools
  · rw [enterTools_same last]
    exact ⟨last, sound last, (account_of_tools last).mp account⟩
  have advanced := account_advance sound account
  rw [enterTools_other last]
  refine ⟨rfl, Int.le_refl 0, ?_⟩
  cases before with
  | true =>
    have none : unstopped opened (stopOpenBlocks info) = [] := advanced
    intro index member
    rw [none] at member
    cases member
  | false => exact advanced

theorem enterTools_isBlock : ∀ event ∈ (enterTools info).events, event.isBlock := by
  by_cases last : info.lastMessagesType = .tools
  · rw [enterTools_same last]
    exact forall_mem_nil _
  · rw [enterTools_other last]
    exact stopOpenBlocks_isBlock

theorem sendToolCalls_proceeds (toolCalls : List ToolCallResponse) (info : RelayInfo) :
    Proceeds info (sendToolCalls toolCalls info) (!(numbered toolCalls).any startsBelow) where
  blocks := forall_mem_append.mpr ⟨enterTools_isBlock, toolFragments_isBlock _⟩
  sound := by
    intro sound _
    have account : info.Account true [] := nofun
    obtain ⟨-, offset, -⟩ := enterTools_account sound account
    exact Int.le_trans offset (toolFragments_grow _ _ _)
  account := by
    intro sound before opened account
    obtain ⟨last, -, entered⟩ := enterTools_account sound account
    have fragments := toolFragments_account entered (numbered toolCalls)
    change RelayInfo.Account _ _ (unstopped opened ((enterTools info).events ++ _))
    rw [unstopped_append]
    exact (@account_of_tools (sendToolCalls toolCalls info).state _ last _).mpr fragments

theorem sendDelta_proceeds (delta : ChoiceDelta) (info : RelayInfo) :
    Proceeds info (sendDelta delta info) (!(numbered delta.toolCalls).any startsBelow) := by
  unfold sendDelta
  split
  · exact sendToolCalls_proceeds delta.toolCalls info
  rename_i none
  rw [not_not.mp none]
  cases delta.speech with
  | none => exact Proceeds.silent info
  | some speech => exact sendSpeech_proceeds speech info

/-! ## Closing a message -/

theorem stopReasonOpenAI2Claude_ne {finishReason : String} (reason : finishReason ≠ "") :
    stopReasonOpenAI2Claude finishReason ≠ "" := by
  unfold stopReasonOpenAI2Claude
  split
  · decide
  · decide
  · decide
  · decide
  · decide
  · decide
  · exact reason

/-- The chunk has a finish reason, and closing the message waits for a usage. -/
def StreamResponse.waits (response : StreamResponse) : Bool :=
  response.isFinished && response.usage.isNone

/-- No fragment that is converted starts a block below those of its phase. -/
def StreamResponse.clean (response : StreamResponse) : Bool :=
  response.waits || !response.fragments.any startsBelow

/-- A chunk that is not the first closes the message: with a finish reason and its own usage,
or without choices when a usage is known. -/
def StreamResponse.closes (response : StreamResponse) (known : Bool) : Bool :=
  if response.choices = [] then known else response.isFinished && response.usage.isSome

def Closing (events : List ClaudeResponse) (opened : List Int) (clean : Bool) : Prop :=
  ∃ body usage stopReason,
    events = body ++ [.messageDelta usage stopReason, .messageStop] ∧ stopReason ≠ "" ∧
      (∀ event ∈ body, event.isBlock) ∧ (unstopped opened body = [] ↔ clean = true)

/-- The last content of a message, and its end. -/
theorem Proceeds.closing {sent : Sent} {clean : Bool} (proceeds : Proceeds info sent clean)
    (sound : info.Sound) (account : info.Account before opened) (usage : ClaudeUsage)
    (reason : stopReason ≠ "") :
    Closing (sent.events ++ (stopOpenBlocks sent.state ++
      [.messageDelta usage stopReason, .messageStop])) opened (before && clean) := by
  refine ⟨sent.events ++ stopOpenBlocks sent.state, usage, stopReason, ?_, reason, ?_, ?_⟩
  · rw [append_assoc]
  · exact forall_mem_append.mpr ⟨proceeds.blocks, stopOpenBlocks_isBlock⟩
  · rw [unstopped_append]
    exact unstopped_stopOpenBlocks (proceeds.account sound before opened account)

theorem usageResponse_closing {response : StreamResponse} (sound : info.Sound)
    (account : info.Account before opened) (known : (response.usage.or info.usage).isSome) :
    Closing (usageResponse response info).events opened before ∧
      (usageResponse response info).state.done = true := by
  obtain ⟨usage, known⟩ := Option.isSome_iff_exists.mp known
  simp only [usageResponse, known]
  refine ⟨?_, trivial⟩
  have reason : (if stopReasonOpenAI2Claude info.finishReason = "" then "end_turn"
      else stopReasonOpenAI2Claude info.finishReason) ≠ "" := by
    split
    · decide
    next nonempty => exact nonempty
  have closing := (Proceeds.silent info).closing sound account
    (buildClaudeUsageFromOpenAIUsage usage) reason
  rwa [Bool.and_true] at closing

section Later

variable {response : StreamResponse} {info : RelayInfo} {before : Bool} {opened : List Int}

theorem StreamResponse.clean_of_no_choices (none : response.choices = []) :
    response.clean = true := by
  simp [clean, fragments, none]

theorem laterResponse_closing (isOpen : info.done = false) (later : info.sendResponseCount ≠ 1)
    (sound : info.Sound) (account : info.Account before opened)
    (closes : response.closes (response.usage.or info.usage).isSome) :
    Closing (streamResponseOpenAI2Claude response info).events opened (before && response.clean) ∧
      (streamResponseOpenAI2Claude response info).state.done = true := by
  cases choices : response.choices with
  | nil =>
    rw [StreamResponse.closes, if_pos choices] at closes
    rw [streamResponseOpenAI2Claude_usage isOpen later choices,
      clean_of_no_choices choices, Bool.and_true]
    exact usageResponse_closing sound account closes
  | cons choice =>
    have some : response.choices ≠ [] := by
      rw [choices]
      exact nofun
    rw [StreamResponse.closes, if_neg some, Bool.and_eq_true,
      isFinished_of_choice choices] at closes
    obtain ⟨finished, reported⟩ := closes
    obtain ⟨usage, reported⟩ := Option.isSome_iff_exists.mp reported
    have clean : response.clean = !(numbered choice.delta.toolCalls).any startsBelow := by
      simp [clean, waits, reported, fragments_of_choice choices]
    have known : ¬ response.usage.isNone = true := by simp [reported]
    rw [streamResponseOpenAI2Claude_choice isOpen later choices, if_pos finished, if_neg known,
      clean]
    refine ⟨?_, rfl⟩
    have kept := (sendDelta_keeps choice.delta
      { info with finishReason := choice.finishReason.getD "" }).finishReason
    have reason : stopReasonOpenAI2Claude (sendDelta choice.delta
        { info with finishReason := choice.finishReason.getD "" }).state.finishReason ≠ "" := by
      rw [kept]
      exact stopReasonOpenAI2Claude_ne (of_decide_eq_true finished)
    have closing := (sendDelta_proceeds choice.delta
      { info with finishReason := choice.finishReason.getD "" }).closing sound account
        (buildClaudeUsageFromOpenAIUsage usage) reason
    simpa [finishMessage, reported] using closing

theorem laterResponse_proceeds (isOpen : info.done = false) (later : info.sendResponseCount ≠ 1)
    (closes : response.closes (response.usage.or info.usage).isSome = false) :
    Proceeds info (streamResponseOpenAI2Claude response info) response.clean ∧
      (streamResponseOpenAI2Claude response info).state.done = false ∧
      (streamResponseOpenAI2Claude response info).state.usage = info.usage := by
  cases choices : response.choices with
  | nil =>
    rw [StreamResponse.closes, if_pos choices] at closes
    have unknown : response.usage.or info.usage = none := by simpa using closes
    rw [streamResponseOpenAI2Claude_usage isOpen later choices, clean_of_no_choices choices]
    simp only [usageResponse, unknown]
    exact ⟨Proceeds.silent info, isOpen, rfl⟩
  | cons choice =>
    have some : response.choices ≠ [] := by
      rw [choices]
      exact nofun
    rw [StreamResponse.closes, if_neg some] at closes
    rw [streamResponseOpenAI2Claude_choice isOpen later choices]
    have finished := isFinished_of_choice choices
    by_cases ends : choice.isFinished = true
    · rw [finished, ends, Bool.true_and] at closes
      have unreported : response.usage = none := by simpa using closes
      have clean : response.clean = true := by
        simp [clean, waits, finished, ends, unreported]
      have waits : response.usage.isNone = true := by simp [unreported]
      rw [if_pos ends, if_pos waits, clean]
      refine ⟨⟨forall_mem_nil _, id, ?_⟩, isOpen, rfl⟩
      intro sound before opened account
      rw [Bool.and_true]
      exact account
    · have clean : response.clean = !(numbered choice.delta.toolCalls).any startsBelow := by
        simp [clean, waits, finished, ends,
          fragments_of_choice choices]
      rw [if_neg ends, clean]
      have kept := sendDelta_keeps choice.delta info
      exact ⟨sendDelta_proceeds choice.delta info, kept.done.trans isOpen, kept.usage⟩

end Later

/-! ## The chunks after the first -/

/-- Whether these chunks close the message, and then whether every block is stopped.  `seen`
says that a usage has come before them; at the last chunk one is known. -/
def closing : Bool → List StreamResponse → Option Bool
  | _, [] => none
  | seen, response :: rest =>
    let known := seen || response.usage.isSome || rest.isEmpty
    if response.closes known then some response.clean
    else (closing known rest).map fun clean => response.clean && clean

/-- The events of a message up to its end, or of one that is still open. -/
def Outcome (events : List ClaudeResponse) (opened : List Int) : Option Bool → Prop
  | none => ∀ event ∈ events, event.isBlock
  | some clean => Closing events opened clean

theorem Outcome.prepend {front events : List ClaudeResponse}
    (blocks : ∀ event ∈ front, event.isBlock)
    (rest : Outcome events (unstopped opened front) result) :
    Outcome (front ++ events) opened result := by
  cases result with
  | none => exact forall_mem_append.mpr ⟨blocks, rest⟩
  | some =>
    obtain ⟨body, usage, stopReason, written, reason, within, stopped⟩ := rest
    refine ⟨front ++ body, usage, stopReason, ?_, reason, ?_, ?_⟩
    · rw [written, append_assoc]
    · exact forall_mem_append.mpr ⟨blocks, within⟩
    · rwa [unstopped_append]

theorem oaiStreamHandler_done (usage : Usage) (done : info.done = true)
    (responses : List StreamResponse) : (oaiStreamHandler usage info responses).events = [] := by
  induction responses generalizing info with
  | nil => rfl
  | cons response rest ih =>
    cases rest with
    | nil =>
      have ignored : streamResponseOpenAI2Claude response { info with usage := some usage } =
          .silent { info with usage := some usage } :=
        streamResponseOpenAI2Claude_done done
      simp [oaiStreamHandler, handleFinalResponse, ignored]
    | cons =>
      have received : (info.receive response.usage).done = true := done
      have ignored : handleStreamFormat info response =
          .silent (info.receive response.usage) := streamResponseOpenAI2Claude_done received
      rw [oaiStreamHandler, ignored]
      exact ih received

variable (response : StreamResponse)

/-- A chunk after the first that is not the last. -/
theorem handleStreamFormat_later (isOpen : info.done = false) (counted : 1 ≤ info.sendResponseCount)
    (sound : info.Sound) (account : info.Account before opened) :
    if response.closes (info.usage.isSome || response.usage.isSome) then
      Closing (handleStreamFormat info response).events opened (before && response.clean) ∧
        (handleStreamFormat info response).state.done = true
    else
      Proceeds info (handleStreamFormat info response) response.clean ∧
        (handleStreamFormat info response).state.done = false ∧
        1 < (handleStreamFormat info response).state.sendResponseCount ∧
        (handleStreamFormat info response).state.usage.isSome =
          (info.usage.isSome || response.usage.isSome) := by
  have received : (info.receive response.usage).done = false := isOpen
  have count : 1 < (info.receive response.usage).sendResponseCount := Nat.succ_le_succ counted
  have known : (response.usage.or (info.receive response.usage).usage).isSome =
      (info.usage.isSome || response.usage.isSome) := by
    simp [receive, Bool.or_comm]
  rw [← known]
  split
  next closes =>
    exact @laterResponse_closing response (info.receive response.usage) before opened received
      (Nat.ne_of_gt count) sound account closes
  rename_i stays
  obtain ⟨proceeds, stillOpen, sameUsage⟩ := laterResponse_proceeds received
    (Nat.ne_of_gt count) (Bool.eq_false_iff.mpr stays)
  refine ⟨{ proceeds with }, stillOpen, ?_, ?_⟩
  · rw [handleStreamFormat, streamResponseOpenAI2Claude_count]
    exact count
  · rw [handleStreamFormat, sameUsage]
    simp [receive]

/-- The last chunk, when it is not the first or second. -/
theorem handleFinalResponse_later (usage : Usage) (last : StreamResponse)
    (isOpen : info.done = false) (later : info.sendResponseCount ≠ 1) (sound : info.Sound)
    (account : info.Account before opened) :
    Outcome (handleFinalResponse usage info last).events opened
      (if last.closes true then some (before && last.clean) else none) := by
  have known : (last.usage.or (some usage)).isSome = true := by simp
  have events : (handleFinalResponse usage info last).events =
      (streamResponseOpenAI2Claude last { info with usage := some usage }).events :=
    append_nil _
  rw [events]
  split
  next closes =>
    rw [← known] at closes
    exact (@laterResponse_closing last { info with usage := some usage } _ _ isOpen later sound
      account (closes.trans known)).1
  next stays =>
    rw [Bool.not_eq_true, ← known] at stays
    exact (@laterResponse_proceeds last { info with usage := some usage } isOpen later
      stays).1.blocks

/-- The events of the chunks that come after the first. -/
theorem oaiStreamHandler_tail (usage : Usage) {responses : List StreamResponse}
    (isOpen : info.done = false) (counted : 1 ≤ info.sendResponseCount)
    (final : responses.length = 1 → info.sendResponseCount ≠ 1) (sound : info.Sound)
    (account : info.Account before opened) :
    Outcome (oaiStreamHandler usage info responses).events opened
      ((closing info.usage.isSome responses).map fun clean => before && clean) := by
  induction responses generalizing info before opened with
  | nil => exact nofun
  | cons response rest ih =>
    cases rest with
    | nil =>
      have outcome := handleFinalResponse_later usage response isOpen (final rfl) sound account
      rw [closing, isEmpty_nil, Bool.or_true]
      cases closes : response.closes true with
      | true | false =>
        rw [closes] at outcome
        exact outcome
    | cons next rest =>
      have step := handleStreamFormat_later response isOpen counted sound account
      rw [closing, isEmpty_cons, Bool.or_false, oaiStreamHandler, Out.andThen_events]
      cases closes : response.closes (info.usage.isSome || response.usage.isSome) with
      | true =>
        rw [closes] at step
        obtain ⟨closed, done⟩ := step
        rw [oaiStreamHandler_done usage done, append_nil]
        exact closed
      | false =>
        rw [closes] at step
        obtain ⟨proceeds, stillOpen, count, known⟩ := step
        have rest := ih stillOpen (Nat.le_of_lt count) (fun _ => Nat.ne_of_gt count)
          (proceeds.sound sound) (proceeds.account sound before opened account)
        rw [known] at rest
        apply Outcome.prepend proceeds.blocks
        simpa [Option.map_map, Function.comp_def, Bool.and_assoc] using rest

/-! ## The first chunk -/

theorem firstToolCall_proceeds (last : info.lastMessagesType = .none) (index : info.index = 0) :
    Proceeds info (firstToolCall response info) true := by
  cases called : response.getFirstToolCall with
  | none =>
    rw [firstToolCall_silent called]
    exact Proceeds.silent info
  | some =>
    have events (opened : List Int) :
        unstopped opened (firstToolCall response info).events = opened ++ [0] := by
      simp only [firstToolCall, called]
      split
      · rfl
      · rfl
    have state := @firstToolCall_state info response _ called
    refine ⟨?_, ?_, ?_⟩
    · simp only [firstToolCall, called]
      refine forall_mem_cons.mpr ⟨rfl, ?_⟩
      split
      · exact forall_mem_singleton.mpr rfl
      · exact forall_mem_nil _
    · intro sound tools
      have offset : (firstToolCall response info).state.toolCallMaxIndexOffset = 0 := by rw [state]
      exact Int.le_of_eq offset.symm
    · intro sound before opened account
      have type : (firstToolCall response info).state.lastMessagesType = .tools := by rw [state]
      rw [events, Bool.and_true, account_of_tools type, state]
      cases before with
      | true =>
        have covered : ∀ index ∈ opened, index ∈ info.openBlocks.map Prod.fst := account
        simp only [openBlocks, last, map_nil, not_mem_nil] at covered
        intro other member
        cases mem_append.mp member with
        | inl old => exact absurd old (covered other)
        | inr new =>
          rw [mem_singleton.mp new]
          exact ⟨Int.le_refl 0, Int.le_refl 0⟩
      | false =>
        obtain ⟨other, member, low⟩ : ∃ other ∈ opened, other < info.lowest := account
        simp only [lowest, last, index] at low
        exact ⟨other, mem_append_left _ member, low⟩

theorem firstSpeech_proceeds (quiet : ∀ speech : Speech, info.lastMessagesType ≠ speech.type) :
    Proceeds info (firstSpeech response info) true := by
  rw [firstSpeech_eq response quiet]
  cases response.choices.head?.bind fun choice => choice.delta.speech with
  | none => exact Proceeds.silent info
  | some speech => exact sendSpeech_proceeds speech info

def firstContent (response : StreamResponse) (info : RelayInfo) : Sent :=
  (firstToolCall response info).andThen (firstSpeech response)

theorem firstContent_proceeds (last : info.lastMessagesType = .none) (index : info.index = 0) :
    Proceeds info (firstContent response info) true :=
  (firstToolCall_proceeds response last index).andThen
    (firstSpeech_proceeds response (firstToolCall_quiet response last))

theorem firstContent_keeps (info : RelayInfo) : info.Keeps (firstContent response info).state :=
  (firstToolCall_keeps response info).trans (firstSpeech_keeps response _)

theorem firstResponse_eq (info : RelayInfo) :
    firstResponse response info =
      ⟨.messageStart response.id response.model info.estimatePromptTokens ::
          ((firstContent response info).events ++
            (firstFinish response (firstContent response info).state).events),
        (firstFinish response (firstContent response info).state).state⟩ := by
  simp [firstResponse, firstContent, Out.andThen]

/-! ## Whole streams -/

/-- The chunks of a stream that is finished once.  A first chunk with a finish reason needs a
usage and must not be the last; otherwise there are two more chunks at least, and those after
the first close the message with every block stopped. -/
def finishes : List StreamResponse → Bool
  | [] => false
  | first :: rest =>
    if first.isFinished then first.usage.isSome && !rest.isEmpty
    else decide (2 ≤ rest.length) && closing first.usage.isSome rest == some true

/-- The record of a request that has not been answered yet. -/
def RelayInfo.start (estimatePromptTokens : Int) : RelayInfo :=
  { estimatePromptTokens := estimatePromptTokens }

variable (estimatePromptTokens : Int)

theorem Outcome.no_messageStart {events : List ClaudeResponse}
    (outcome : Outcome events opened result) : events.countP isMessageStart = 0 := by
  rw [countP_eq_zero]
  intro event member
  rw [Bool.not_eq_true]
  cases result with
  | none => exact (isBlock.other (outcome event member)).1
  | some =>
    obtain ⟨_, _, _, written, -, blocks, -⟩ := outcome
    rw [written] at member
    cases mem_append.mp member with
    | inl within => exact (isBlock.other (blocks event within)).1
    | inr closing =>
      simp only [mem_cons, not_mem_nil, or_false] at closing
      cases closing with
      | inl delta =>
        rw [delta]
        rfl
      | inr stop =>
        rw [stop]
        rfl

/-- The only chunk of a stream is not treated as a first one: no message is started. -/
theorem single_not_finished (usage : Usage) (last : StreamResponse) :
    ¬ FinishedOnce (oaiStreamHandler usage (.start estimatePromptTokens) [last]).events := by
  have account : (start estimatePromptTokens).Account true [] := nofun
  have outcome := handleFinalResponse_later usage last
    (rfl : (start estimatePromptTokens).done = false) Nat.zero_ne_one nofun account
  intro finished
  have one := finished.one_messageStart
  rw [oaiStreamHandler, outcome.no_messageStart] at one
  cases one

section First

variable {first : StreamResponse} {info : RelayInfo}

theorem firstResponse_finished (last : info.lastMessagesType = .none) (index : info.index = 0)
    (finished : first.isFinished) :
    (firstResponse first info).state.done = true ∧
      (FinishedOnce (firstResponse first info).events ↔ (first.usage.or info.usage).isSome) := by
  cases choices : first.choices with
  | nil => simp [isFinished, choices] at finished
  | cons choice =>
    rw [isFinished_of_choice choices] at finished
    have proceeds := firstContent_proceeds first last index
    have closes : firstFinish first (firstContent first info).state = finishMessage first
          { (firstContent first info).state with finishReason := choice.finishReason.getD "" } := by
      simp [firstFinish, choices, finished]
    rw [firstResponse_eq, closes]
    refine ⟨rfl, ?_⟩
    have kept := (firstContent_keeps first info).usage
    have covered : info.Account true [] := forall_mem_nil _
    have sound : info.Sound := fun tools => by cases last.symm.trans tools
    cases reported : first.usage.or info.usage with
    | none =>
      simp only [finishMessage, kept, reported, append_nil, Option.isSome_none,
        Bool.false_eq_true, iff_false]
      intro once
      obtain ⟨usage, stopReason, member⟩ := once.has_messageDelta
      simp only [mem_cons, mem_append, reduceCtorEq, false_or, not_mem_nil,
        or_false] at member
      cases member with
      | inl content => exact (isBlock.other (proceeds.blocks _ content)).2.2 _ _ rfl
      | inr stop => exact (isBlock.other (stopOpenBlocks_isBlock _ stop)).2.2 _ _ rfl
    | some usage =>
      have reason := stopReasonOpenAI2Claude_ne (of_decide_eq_true finished)
      obtain ⟨body, sent, stopReason, written, reason, blocks, stopped⟩ :=
        proceeds.closing sound covered (buildClaudeUsageFromOpenAIUsage usage) reason
      have events : (firstContent first info).events ++
          (finishMessage first { (firstContent first info).state with
            finishReason := choice.finishReason.getD "" }).events =
              body ++ [messageDelta sent stopReason, .messageStop] := by
        rw [← written]
        simp only [finishMessage, kept, reported, append_assoc]
        rfl
      rw [events, finishedOnce_iff blocks reason]
      exact stopped

theorem firstResponse_open (last : info.lastMessagesType = .none) (index : info.index = 0)
    (unfinished : first.isFinished = false) :
    ∃ content : Sent, Proceeds info content true ∧ info.Keeps content.state ∧
      firstResponse first info =
        ⟨.messageStart first.id first.model info.estimatePromptTokens :: content.events,
          content.state⟩ := by
  refine ⟨firstContent first info, firstContent_proceeds first last index,
    firstContent_keeps first info, ?_⟩
  have stays : firstFinish first (firstContent first info).state =
      .silent (firstContent first info).state := by
    cases choices : first.choices with
    | nil => simp [firstFinish, choices]
    | cons =>
      rw [isFinished_of_choice choices] at unfinished
      simp [firstFinish, choices, unfinished]
  rw [firstResponse_eq, stays]
  simp

end First

theorem oaiStreamHandler_finished_iff (usage : Usage) (responses : List StreamResponse) :
    FinishedOnce (oaiStreamHandler usage (.start estimatePromptTokens) responses).events ↔
      finishes responses = true := by
  match responses with
  | [] =>
    refine ⟨fun finished => ?_, nofun⟩
    cases finished.has_messageStop
  | [last] =>
    have never := single_not_finished estimatePromptTokens usage last
    simp [never, finishes]
  | first :: next :: rest =>
    have start : handleStreamFormat (.start estimatePromptTokens) first =
        firstResponse first ((start estimatePromptTokens).receive first.usage) :=
      streamResponseOpenAI2Claude_first rfl rfl
    have known : ((RelayInfo.start estimatePromptTokens).receive first.usage).usage =
        first.usage := Option.or_none
    rw [oaiStreamHandler, start, Out.andThen_events]
    cases finished : first.isFinished with
    | true =>
      obtain ⟨done, once⟩ := @firstResponse_finished first
        ((RelayInfo.start estimatePromptTokens).receive first.usage) rfl rfl finished
      rw [oaiStreamHandler_done usage done, append_nil, once, known]
      simp [finishes, finished]
    | false =>
      obtain ⟨content, proceeds, kept, sent⟩ := @firstResponse_open first
        ((RelayInfo.start estimatePromptTokens).receive first.usage) rfl rfl finished
      have isOpen : content.state.done = false := kept.done
      have count : content.state.sendResponseCount = 1 := kept.sendResponseCount
      have covered := proceeds.account nofun true [] nofun
      rw [sent]
      cases rest with
      | nil =>
        -- the second chunk is the last one and is taken for the first again
        have again : (oaiStreamHandler usage content.state [next]).events =
            (firstResponse next { content.state with usage := some usage }).events := by
          have first := @streamResponseOpenAI2Claude_first next
            { content.state with usage := some usage } isOpen count
          simp [oaiStreamHandler, handleFinalResponse, first]
        have short : finishes [first, next] = false := by simp [finishes, finished]
        rw [again, firstResponse_eq next, short]
        exact ⟨fun once => absurd once FinishedOnce.not_of_two_starts, nofun⟩
      | cons third rest =>
        have tail := @oaiStreamHandler_tail content.state _ true usage
          (next :: third :: rest) isOpen (Nat.le_of_eq count.symm) nofun
          (proceeds.sound nofun) covered
        have outcome := tail.prepend proceeds.blocks
        have seen : content.state.usage.isSome = first.usage.isSome := by rw [kept.usage, known]
        have closes : finishes (first :: next :: third :: rest) =
            (closing first.usage.isSome (next :: third :: rest) == some true) := by
          simp [finishes, finished]
        rw [seen] at outcome
        rw [closes, cons_append]
        cases result : closing first.usage.isSome (next :: third :: rest) with
        | none =>
          rw [result] at outcome
          refine ⟨fun once => ?_, nofun⟩
          cases once.has_messageStop with
          | tail _ member => exact absurd rfl (isBlock.other (outcome _ member)).2.1
        | some =>
          rw [result] at outcome
          obtain ⟨_, _, _, written, reason, blocks, stopped⟩ := outcome
          rw [written, finishedOnce_iff blocks reason, stopped]
          simp

/-! ## Responses events -/

/-- A chunk that does not close the message. -/
theorem handleStreamFormat_unclosing {response : StreamResponse} (isOpen : info.done = false)
    (fresh : info.sendResponseCount = 0 → info.lastMessagesType = .none ∧ info.index = 0)
    (some : response.choices ≠ []) (bare : response.usage = none)
    (begun : 1 ≤ info.sendResponseCount ∨ response.isFinished = false) :
    .messageStop ∉ (handleStreamFormat info response).events ∧
      (handleStreamFormat info response).state.done = false ∧
      1 ≤ (handleStreamFormat info response).state.sendResponseCount := by
  have received : (info.receive response.usage).done = false := isOpen
  have counted : 1 ≤ (handleStreamFormat info response).state.sendResponseCount := by
    rw [handleStreamFormat, streamResponseOpenAI2Claude_count]
    exact Nat.succ_pos _
  by_cases first : info.sendResponseCount = 0
  · obtain ⟨last, index⟩ := fresh first
    have unfinished : response.isFinished = false := begun.resolve_left (by omega)
    have one : (info.receive response.usage).sendResponseCount = 1 := congrArg (· + 1) first
    have start : handleStreamFormat info response =
        firstResponse response (info.receive response.usage) :=
      streamResponseOpenAI2Claude_first received one
    obtain ⟨_, proceeds, kept, sent⟩ := @firstResponse_open response
      (info.receive response.usage) last index unfinished
    rw [start, sent]
    refine ⟨fun member => ?_, kept.done.trans isOpen, ?_⟩
    · cases member with
      | tail _ within => exact absurd rfl (isBlock.other (proceeds.blocks _ within)).2.1
    · exact Nat.le_of_eq (kept.sendResponseCount.trans one).symm
  · have later : (info.receive response.usage).sendResponseCount ≠ 1 :=
      fun one => first (Nat.succ.inj one)
    have stays : response.closes (response.usage.or (info.receive response.usage).usage).isSome =
        false := by
      rw [closes, if_neg some, bare]
      exact Bool.and_false _
    obtain ⟨proceeds, stillOpen, -⟩ := laterResponse_proceeds received later stays
    exact ⟨fun member => absurd rfl (isBlock.other (proceeds.blocks _ member)).2.1,
      stillOpen, counted⟩

theorem claudeEvents_unclosing {started : Bool} {actions : List ChatAction}
    (isOpen : info.done = false)
    (fresh : info.sendResponseCount = 0 → info.lastMessagesType = .none ∧ info.index = 0)
    (begun : started = true → 1 ≤ info.sendResponseCount) (unclosing : Unclosing started actions) :
    .messageStop ∉ claudeEvents info actions := by
  induction actions generalizing info started with
  | nil => exact not_mem_nil
  | cons action actions ih =>
    cases action with
    | storeUsage usage =>
      exact @ih { info with usage := some usage } started isOpen fresh begun unclosing
    | chunk =>
      obtain ⟨⟨some, bare, ready⟩, rest⟩ := unclosing
      obtain ⟨silent, stillOpen, counted⟩ := handleStreamFormat_unclosing isOpen fresh some bare
        (ready.imp_left begun)
      intro member
      cases mem_append.mp member with
      | inl here => exact silent here
      | inr later =>
        exact ih stillOpen (fun none => absurd none (Nat.ne_of_gt counted))
          (fun _ => counted) rest later

/-- A stream of chunks is finished once exactly when its finish reason and usage stand where
the handler closes the message; a stream of Responses events never is. -/
theorem claude_stream_finished_iff (estimatePromptTokens : Int) :
    (∀ (usage : Usage) (responses : List StreamResponse),
      FinishedOnce (oaiStreamHandler usage (.start estimatePromptTokens) responses).events ↔
        finishes responses = true) ∧
    ∀ (responseId model : String) (estimate : String → Usage) (events : List ResponsesEvent),
      ¬ FinishedOnce (claudeEvents (.start estimatePromptTokens)
        (oaiResponsesToChatStreamHandler responseId estimate model events).events) := by
  refine ⟨oaiStreamHandler_finished_iff estimatePromptTokens, ?_⟩
  intro responseId model estimate events finished
  have unclosing := ((responsesEvents_unclosed responseId { model := model } events).andThen
    (responsesEnd_unclosed responseId estimate _)).actions
  have begun : false = true → 1 ≤ (start estimatePromptTokens).sendResponseCount := nofun
  exact claudeEvents_unclosing rfl (fun _ => ⟨rfl, rfl⟩) begun unclosing finished.has_messageStop

def spokenChunk (text : String) (finishReason : Option String) : StreamResponse :=
  { choices := [{ delta := { content := some text }, finishReason := finishReason }] }

/-- Streams that end normally and have a finish reason: a single chunk, two chunks, a first
chunk with the finish reason and no usage, and a last chunk with it and no usage.  None is
finished, and a completed Responses stream is not either. -/
theorem claude_stream_left_open :
    (∀ responses ∈
        [[spokenChunk "hi" (some "stop")], [spokenChunk "" none, spokenChunk "hi" (some "stop")],
          [spokenChunk "hi" (some "stop"), { usage := some {} }],
          [spokenChunk "" none, spokenChunk "hi" none, spokenChunk "" (some "stop")]],
      ¬ FinishedOnce (oaiStreamHandler {} (.start 0) responses).events) ∧
    ¬ FinishedOnce (claudeEvents (.start 0) (oaiResponsesToChatStreamHandler "r" (fun _ => {}) "m"
      [.outputTextDelta "hi", .completed (some {})]).events) := by
  refine ⟨?_, ?_⟩
  · intro responses member finished
    have one := finished.one_messageStart
    have stop := finished.has_messageStop
    obtain ⟨usage, _, delta⟩ := finished.has_messageDelta
    simp only [mem_cons, not_mem_nil, or_false] at member
    rcases member with rfl | rfl | rfl | rfl
    · revert one; decide +kernel
    · revert one; decide +kernel
    · have events : (oaiStreamHandler {} (.start 0)
          [spokenChunk "hi" (some "stop"), { usage := some {} }]).events =
          [.messageStart "" "" 0, .contentBlockStart 0 .text, .contentBlockDelta 0 (.text "hi"),
            .contentBlockStop 0, .messageStop] := by
        decide +kernel
      rw [events] at delta
      simp at delta
    · revert stop; decide +kernel
  · intro finished
    have stop := finished.has_messageStop
    revert stop
    decide +kernel

end StuHelper.Relay
