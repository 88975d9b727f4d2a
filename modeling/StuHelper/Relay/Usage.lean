import StuHelper.Relay.ClaudeAgree

/-!
# Token counts of Claude answers

A whole Claude message carries its usage in one object.  A stream reports it twice: a
`message_start` sets all counts, a `message_delta` replaces those that it reports as positive.
The counts meet in the end; the number of web searches is read from whole messages only.

Chat clients get the counts in the OpenAI convention, where the prompt includes what the cache
served or stored, Claude clients of an OpenAI upstream in the Claude convention.
-/

namespace StuHelper.Relay

open List

variable {ω : Type}

/-! ## Usage of a message -/

def ClaudeUsage.getCacheCreation5mTokens (usage : ClaudeUsage) : Int :=
  (usage.cacheCreation.getD (0, 0)).1

def ClaudeUsage.getCacheCreation1hTokens (usage : ClaudeUsage) : Int :=
  (usage.cacheCreation.getD (0, 0)).2

/-- The copy of the counts that a whole message and a `message_start` make. -/
def ClaudeUsage.toUsage (usage : ClaudeUsage) : Usage :=
  { promptTokens := usage.inputTokens
    completionTokens := usage.outputTokens
    cachedTokens := usage.cacheReadInputTokens
    cachedCreationTokens := usage.cacheCreationInputTokens
    claudeCacheCreation5mTokens := usage.getCacheCreation5mTokens
    claudeCacheCreation1hTokens := usage.getCacheCreation1hTokens }

/-- `dto.ClaudeUsage` with its `ServerToolUse`. -/
structure ClaudeReport extends ClaudeUsage where
  webSearchRequests : Option Int := none
  deriving DecidableEq, Repr

structure UsageEvent (ω : Type) extends ClaudeEvent ω where
  messageUsage : Option ClaudeReport := none
  usage : Option ClaudeReport := none

/-- `ClaudeResponseInfo` and the value `claude_web_search_requests` of the context. -/
structure ClaudeResponseInfo where
  responseText : String := ""
  usage : Usage := {}
  totalTokens : Int := 0
  usageSemantic : String := ""
  done : Bool := false
  webSearchRequests : Int := 0
  deriving DecidableEq, Repr

def handleClaudeResponseData (report : Option ClaudeReport) (info : ClaudeResponseInfo) :
    ClaudeResponseInfo :=
  match report with
  | none => info
  | some report =>
    { info with
      usage := report.toUsage
      totalTokens := report.inputTokens + report.outputTokens
      usageSemantic := "anthropic"
      webSearchRequests := if report.webSearchRequests.getD 0 > 0 then
          report.webSearchRequests.getD 0
        else info.webSearchRequests }

def claudeHandler (report : Option ClaudeReport) : ClaudeResponseInfo :=
  handleClaudeResponseData report {}

/-! ## Usage of a stream -/

/-- A positive count replaces the one before it. -/
def latest (count reported : Int) : Int :=
  if reported > 0 then reported else count

/-- The counts after a `message_delta`. -/
def Usage.update (usage report : Usage) : Usage :=
  { promptTokens := latest usage.promptTokens report.promptTokens
    completionTokens := latest usage.completionTokens report.completionTokens
    cachedTokens := latest usage.cachedTokens report.cachedTokens
    cachedCreationTokens := latest usage.cachedCreationTokens report.cachedCreationTokens
    claudeCacheCreation5mTokens :=
      latest usage.claudeCacheCreation5mTokens report.claudeCacheCreation5mTokens
    claudeCacheCreation1hTokens :=
      latest usage.claudeCacheCreation1hTokens report.claudeCacheCreation1hTokens }

def formatClaudeResponseInfo (info : ClaudeResponseInfo) (event : UsageEvent ω) :
    ClaudeResponseInfo :=
  match event.type with
  | .messageStart =>
    match event.messageUsage with
    | none => info
    | some report => { info with usage := report.toUsage, usageSemantic := "anthropic" }
  | .contentBlockDelta =>
    match event.delta with
    | none => info
    | some delta =>
      { info with
        responseText := info.responseText ++ delta.text.getD "" ++ delta.thinking.getD "" }
  | .messageDelta =>
    match event.usage with
    | none => { info with done := true }
    | some report =>
      let usage := info.usage.update report.toUsage
      { info with
        usage := usage
        usageSemantic := "anthropic"
        totalTokens := usage.promptTokens + usage.completionTokens
        done := true }
  | _ => info

/-- `HandleStreamFinalResponse`; `responseText2Usage` estimates the counts of a text. -/
def handleStreamFinalResponse (responseText2Usage : String → Usage) (info : ClaudeResponseInfo) :
    ClaudeResponseInfo :=
  if info.usage.completionTokens = 0 ∨ info.done = false then
    let fallback := responseText2Usage info.responseText
    let completionTokens :=
      if info.usage.completionTokens = 0 ∨
          (info.done = false ∧ fallback.completionTokens > info.usage.completionTokens) then
        fallback.completionTokens
      else info.usage.completionTokens
    let promptTokens :=
      if info.usage.promptTokens = 0 then fallback.promptTokens else info.usage.promptTokens
    { info with
      usage := { info.usage with
        completionTokens := completionTokens, promptTokens := promptTokens }
      totalTokens := promptTokens + completionTokens
      usageSemantic := "anthropic" }
  else { info with usageSemantic := "anthropic" }

/-- `ClaudeStreamHandler` on a stream without an error event. -/
def claudeStreamHandler (responseText2Usage : String → Usage) (events : List (UsageEvent ω)) :
    ClaudeResponseInfo :=
  handleStreamFinalResponse responseText2Usage (events.foldl formatClaudeResponseInfo {})

/-- A final count that is reported first and then repeated or left out, or reported last. -/
def Reported (first last final : Int) : Prop :=
  first = final ∧ (last = final ∨ last = 0) ∨ last = final ∧ 0 < final

instance (first last final : Int) : Decidable (Reported first last final) :=
  inferInstanceAs (Decidable (_ ∨ _))

def Usage.counts : List (Usage → Int) :=
  [promptTokens, completionTokens, cachedTokens, cachedCreationTokens,
    claudeCacheCreation5mTokens, claudeCacheCreation1hTokens]

theorem Usage.update_of_reported {first last final : Usage}
    (reported : ∀ count ∈ counts, Reported (count first) (count last) (count final)) :
    first.update last = final := by
  have replaced : ∀ count ∈ counts, latest (count first) (count last) = count final := by
    intro count member
    simp only [latest]
    rcases reported count member with ⟨same, repeated | absent⟩ | ⟨same, positive⟩
    · rw [same, repeated, ite_self]
    · rw [same, absent]
      rfl
    · rw [same, if_pos positive]
  simp only [counts, forall_mem_cons] at replaced
  simp only [update, replaced]

/-- A stream reports the usage of a message in a `message_start` and a `message_delta`, among
other events. -/
inductive StreamsUsage (whole : ClaudeReport) : List (UsageEvent ω) → Prop
  | intro {before middle after : List (UsageEvent ω)} {start delta : UsageEvent ω}
      {first last : ClaudeReport}
      (others : ∀ event ∈ before ++ middle ++ after,
        event.type ≠ .messageStart ∧ event.type ≠ .messageDelta)
      (started : start.type = .messageStart) (startUsage : start.messageUsage = some first)
      (ended : delta.type = .messageDelta) (endUsage : delta.usage = some last)
      (reported : ∀ count ∈ Usage.counts,
        Reported (count first.toUsage) (count last.toUsage) (count whole.toUsage)) :
      StreamsUsage whole (before ++ start :: (middle ++ delta :: after))

theorem foldl_others {events : List (UsageEvent ω)} (others : ∀ event ∈ events,
      event.type ≠ .messageStart ∧ event.type ≠ .messageDelta) (info : ClaudeResponseInfo) :
    ∃ text, events.foldl formatClaudeResponseInfo info = { info with responseText := text } := by
  induction events generalizing info with
  | nil => exact ⟨info.responseText, rfl⟩
  | cons event events ih =>
    obtain ⟨notStart, notDelta⟩ := others event mem_cons_self
    obtain ⟨text, rest⟩ := ih (fun later member => others later (mem_cons_of_mem _ member))
      (formatClaudeResponseInfo info event)
    refine ⟨text, rest.trans ?_⟩
    simp only [formatClaudeResponseInfo]
    split
    · contradiction
    · split <;> rfl
    · contradiction
    · rfl

/-- A stream gives the counts of the whole message; the web searches are lost. -/
theorem streamed_answer_costs_the_same (responseText2Usage : String → Usage)
    {whole : ClaudeReport} {events : List (UsageEvent ω)} (streams : StreamsUsage whole events)
    (answered : 0 < whole.outputTokens) :
    let streamed := claudeStreamHandler responseText2Usage events
    let answer := claudeHandler (some whole)
    (streamed.usage = answer.usage ∧ streamed.totalTokens = answer.totalTokens ∧
      streamed.usageSemantic = answer.usageSemantic) ∧
    (streamed.webSearchRequests = answer.webSearchRequests ↔
      whole.webSearchRequests.getD 0 ≤ 0) := by
  cases streams with
  | @intro before middle after start delta first last others started startUsage ended endUsage
      reported =>
      simp only [forall_mem_append] at others
      obtain ⟨greeting, untilStart⟩ := foldl_others others.1.1 {}
      obtain ⟨spoken, untilEnd⟩ := foldl_others others.1.2
        { usage := first.toUsage, usageSemantic := "anthropic", responseText := greeting }
      obtain ⟨text, afterwards⟩ := foldl_others others.2
        { usage := whole.toUsage, usageSemantic := "anthropic", responseText := spoken,
          done := true, totalTokens := whole.inputTokens + whole.outputTokens }
      have folded : (before ++ start :: (middle ++ delta :: after)).foldl
            formatClaudeResponseInfo {} =
          { usage := whole.toUsage, usageSemantic := "anthropic", responseText := text,
            done := true, totalTokens := whole.inputTokens + whole.outputTokens } := by
        rw [foldl_append, untilStart, foldl_cons]
        simp only [formatClaudeResponseInfo, started, startUsage]
        rw [foldl_append, untilEnd, foldl_cons]
        simp only [formatClaudeResponseInfo, ended, endUsage, Usage.update_of_reported reported]
        exact afterwards
      have counted : ¬ (whole.toUsage.completionTokens = 0 ∨ true = false) :=
        not_or.mpr ⟨answered.ne', Bool.noConfusion⟩
      simp only [claudeStreamHandler, folded, handleStreamFinalResponse, if_neg counted,
        claudeHandler, handleClaudeResponseData, true_and]
      constructor
      · intro same
        by_contra positive
        rw [if_pos (not_le.mp positive)] at same
        exact positive same.symm.le
      · intro none
        rw [if_neg (not_lt.mpr none)]

/-- Two searches, all counts in the `message_start` and the output in the `message_delta`. -/
def twoSearches : ClaudeReport :=
  { inputTokens := 10, outputTokens := 5, cacheCreationInputTokens := 0, cacheReadInputTokens := 3,
    cacheCreation := none, webSearchRequests := some 2 }

/-- The message of `twoSearches` as a stream, or one without searches. -/
def searchStream (webSearchRequests : Option Int) : List (UsageEvent Unit) :=
  let report := { twoSearches with webSearchRequests := webSearchRequests }
  [{ type := .messageStart, messageUsage := some { report with outputTokens := 1 } },
    { type := .messageDelta, usage := some { report with inputTokens := 0 } }]

theorem searchStream_streamsUsage (webSearchRequests : Option Int) :
    StreamsUsage { twoSearches with webSearchRequests := webSearchRequests }
      (searchStream webSearchRequests) :=
  @StreamsUsage.intro _ _ [] [] [] _ _ _ _ (forall_mem_nil _) rfl rfl rfl rfl
    (by simp [Usage.counts, ClaudeUsage.toUsage, Reported, twoSearches]; decide)

theorem streamed_answer_costs_the_same_noSearch :
    (claudeStreamHandler (fun _ => {}) (searchStream none)).webSearchRequests =
      (claudeHandler (some { twoSearches with webSearchRequests := none })).webSearchRequests :=
  (streamed_answer_costs_the_same (fun _ => {}) (searchStream_streamsUsage none)
    (by decide)).2.mpr (by decide)

theorem streamed_searches_are_free :
    StreamsUsage twoSearches (searchStream (some 2)) ∧ 0 < twoSearches.outputTokens ∧
    (claudeStreamHandler (fun _ => {}) (searchStream (some 2))).webSearchRequests = 0 ∧
    (claudeHandler (some twoSearches)).webSearchRequests = 2 :=
  ⟨searchStream_streamsUsage (some 2), by decide⟩

/-! ## Conversion between the conventions -/

def cacheCreationTokensForOpenAIUsage (usage : Usage) : Int :=
  let splitCacheCreationTokens :=
    usage.claudeCacheCreation5mTokens + usage.claudeCacheCreation1hTokens
  if splitCacheCreationTokens = 0 then usage.cachedCreationTokens
  else if usage.cachedCreationTokens > splitCacheCreationTokens then usage.cachedCreationTokens
  else splitCacheCreationTokens

/-- `buildOpenAIStyleUsageFromClaudeUsage`, without the totals. -/
def buildOpenAIStyleUsageFromClaudeUsage (usage : Usage) : Usage :=
  let (tokens5m, tokens1h) := normalizeCacheCreationSplit usage.cachedCreationTokens
    usage.claudeCacheCreation5mTokens usage.claudeCacheCreation1hTokens
  { usage with
    claudeCacheCreation5mTokens := tokens5m
    claudeCacheCreation1hTokens := tokens1h
    promptTokens :=
      usage.promptTokens + usage.cachedTokens + cacheCreationTokensForOpenAIUsage usage }

namespace ClaudeUsage

/-- The counts are not negative. -/
structure Counts (usage : ClaudeUsage) : Prop where
  read : 0 ≤ usage.cacheReadInputTokens
  creation : 0 ≤ usage.cacheCreationInputTokens
  creation5m : 0 ≤ usage.getCacheCreation5mTokens
  creation1h : 0 ≤ usage.getCacheCreation1hTokens

/-- The larger of the reported cache creation and of its parts. -/
def creationTotal (usage : ClaudeUsage) : Int :=
  max usage.cacheCreationInputTokens
    (usage.getCacheCreation5mTokens + usage.getCacheCreation1hTokens)

/-- The counts of a usage that was converted and converted back are those it had before. -/
structure Survives (before after : ClaudeUsage) : Prop where
  input : after.inputTokens = before.inputTokens
  output : after.outputTokens = before.outputTokens
  read : after.cacheReadInputTokens = before.cacheReadInputTokens
  creation : after.cacheCreationInputTokens = before.creationTotal
  split : after.getCacheCreation5mTokens + after.getCacheCreation1hTokens = before.creationTotal

/-- A chat client's usage, converted back. -/
def roundTrip (usage : ClaudeUsage) : ClaudeUsage :=
  buildClaudeUsageFromOpenAIUsage (buildOpenAIStyleUsageFromClaudeUsage usage.toUsage)

variable {usage : ClaudeUsage}

/-- The parts that are sent add up to the total, or to more. -/
theorem parts_buildClaudeUsage {oaiUsage : Usage}
    (creation5m : 0 ≤ oaiUsage.claudeCacheCreation5mTokens)
    (creation1h : 0 ≤ oaiUsage.claudeCacheCreation1hTokens) :
    let built := buildClaudeUsageFromOpenAIUsage oaiUsage
    built.getCacheCreation5mTokens + built.getCacheCreation1hTokens =
      max oaiUsage.cachedCreationTokens
        (oaiUsage.claudeCacheCreation5mTokens + oaiUsage.claudeCacheCreation1hTokens) := by
  simp only [buildClaudeUsageFromOpenAIUsage, getCacheCreation5mTokens, getCacheCreation1hTokens]
  split
  · simp only [Option.getD_some, normalizeCacheCreationSplit]
    omega
  · simp only [Option.getD_none, normalizeCacheCreationSplit] at *
    omega

end ClaudeUsage

/-- The counts survive only where the cache was not used. -/
theorem usage_survives_conversion (oaiUsage : Usage) (usage : ClaudeUsage) :
    (0 ≤ oaiUsage.cachedTokens → 0 ≤ oaiUsage.cachedCreationTokens →
      oaiUsage.cachedTokens + oaiUsage.cachedCreationTokens ≤ oaiUsage.promptTokens →
      let built := buildClaudeUsageFromOpenAIUsage oaiUsage
      (built.inputTokens + built.cacheReadInputTokens + built.cacheCreationInputTokens =
          oaiUsage.promptTokens ↔
        oaiUsage.cachedTokens = 0 ∧ oaiUsage.cachedCreationTokens = 0)) ∧
    (usage.Counts →
      (usage.Survives usage.roundTrip ↔
        usage.cacheReadInputTokens = 0 ∧ usage.creationTotal = 0)) := by
  constructor
  · simp only [buildClaudeUsageFromOpenAIUsage]
    omega
  · intro counts
    have written : cacheCreationTokensForOpenAIUsage usage.toUsage = usage.creationTotal := by
      have := counts.creation
      simp only [cacheCreationTokensForOpenAIUsage, ClaudeUsage.toUsage, ClaudeUsage.creationTotal]
      omega
    -- the input comes back with the cache included
    have input : usage.roundTrip.inputTokens =
        usage.inputTokens + usage.cacheReadInputTokens + usage.creationTotal := by
      rw [← written]
      rfl
    have total : usage.cacheCreationInputTokens ≤ usage.creationTotal := le_max_left _ _
    have creation := counts.creation
    constructor
    · intro survives
      have read := counts.read
      have same := survives.input
      omega
    · rintro ⟨noRead, noCreation⟩
      have none : usage.cacheCreationInputTokens = usage.creationTotal := by omega
      refine ⟨by omega, rfl, rfl, none, ?_⟩
      have creation5m := counts.creation5m
      rw [ClaudeUsage.roundTrip, ClaudeUsage.parts_buildClaudeUsage _ counts.creation1h]
      · simp only [buildOpenAIStyleUsageFromClaudeUsage, normalizeCacheCreationSplit,
          ClaudeUsage.toUsage, ClaudeUsage.creationTotal]
        omega
      · simp only [buildOpenAIStyleUsageFromClaudeUsage, normalizeCacheCreationSplit,
          ClaudeUsage.toUsage]
        omega

/-- A prompt of ten tokens, four of them from the cache. -/
def fourCached : Usage := { promptTokens := 10, cachedTokens := 4 }

/-- Six fresh tokens, four from the cache and five written to it for one hour. -/
def cachedMessage : ClaudeUsage :=
  { inputTokens := 6, outputTokens := 1, cacheCreationInputTokens := 0, cacheReadInputTokens := 4,
    cacheCreation := some (0, 5) }

theorem usage_survives_conversion_uncached :
    let usage : ClaudeUsage := { cachedMessage with
      cacheReadInputTokens := 0, cacheCreation := none }
    usage.Survives usage.roundTrip :=
  ((usage_survives_conversion {} _).2 ⟨by decide, by decide, by decide, by decide⟩).mpr (by decide)

theorem cached_usage_is_counted_twice :
    buildClaudeUsageFromOpenAIUsage fourCached =
      { inputTokens := 10, outputTokens := 0, cacheCreationInputTokens := 0,
        cacheReadInputTokens := 4, cacheCreation := none } ∧
    cachedMessage.roundTrip = { cachedMessage with inputTokens := 15 } ∧
    cachedMessage.creationTotal = 5 := by
  decide

end StuHelper.Relay
