import StuHelper.Routing.Distribute

/-!
# The relay loop

`Relay` attempts the channel that the distributor has set up, and after an error another one.  An
error is retried in the group of the request, or else in the next group if the group is "auto".
Selections and setups are those of `getChannel`.
-/

namespace StuHelper.Routing

open Lib

namespace Request

variable (request : Request)

/-! ## Whether to go on -/

def shouldFallbackChannelAffinityForError (error : RelayError) (retryTimes : Int) : Bool :=
  (request.settings.classifyRelayError error).retryable && decide (0 < retryTimes) &&
    request.specificChannelID.isNone &&
    request.settings.shouldFallbackChannelAffinityOnTemporaryError error.statusCode &&
    request.settings.shouldRetryByStatusCode error.statusCode

/-- The tests of `ShouldSkipRetryAfterChannelAffinityFailure`: the context to go on with, if any.
A fallback clears the affinity cache. -/
def passAffinity (happening : Happening) (context : Context) (error : RelayError)
    (retryTimes : Int) : Option Context :=
  if ¬context.channelAffinitySkipRetry then some context
  else if request.shouldFallbackChannelAffinityForError error retryTimes then
    some (request.clearCurrentChannelAffinityCache happening context)
  else none

/-- `shouldRetry`, and the context that it leaves. -/
def shouldRetry (happening : Happening) (context : Context) (error : RelayError)
    (retryTimes : Int) : Bool × Context :=
  if context.committed then (false, context)
  else
    match request.passAffinity happening context error retryTimes with
    | none => (false, context)
    | some passed =>
      let classification := request.settings.classifyRelayError error
      if classification.forceRetry then (true, passed)
      else if ¬classification.retryable then (false, passed)
      else if retryTimes ≤ 0 then (false, passed)
      else (request.specificChannelID.isNone, passed)

def shouldAutoGroupRetryGatewayStatus (statusCode : Int) : Bool :=
  statusCode = 502 ∨ statusCode = 503 ∨ statusCode = 524

/-- `shouldRetryAutoGroupRelayError`, and the context that it leaves. -/
def shouldRetryAutoGroupRelayError (happening : Happening) (context : Context)
    (error : RelayError) : Bool × Context :=
  if context.committed ∨ request.specificChannelID.isSome then (false, context)
  else
    match request.passAffinity happening context error 1 with
    | none => (false, context)
    | some passed =>
      if error.skipRetry ∨ isAlwaysSkipRetryCode error.errorCode then (false, passed)
      else
        let classification := request.settings.classifyRelayError error
        if classification.forceRetry then (true, passed)
        else (classification.retryable ||
          shouldAutoGroupRetryGatewayStatus error.statusCode, passed)

def isAutoGroupRequest (context : Context) : Bool :=
  if context.tokenGroup ≠ "" then context.tokenGroup = "auto" else context.usingGroup = "auto"

/-- The index that `nextAutoGroupRetryIndex` finds, before it is compared with the groups. -/
def nextGroupIndex (context : Context) : Option Nat :=
  match context.autoGroup.bind fun group =>
      request.getContextAutoGroups.findIdx? fun other => other = group with
  | some position => some (position + 1)
  | none => context.autoGroupIndex

def nextAutoGroupRetryIndex (context : Context) : Option Nat :=
  if ¬isAutoGroupRequest context ∨ ¬request.crossGroupRetry ∨
      request.getContextAutoGroups.length < 2 then none
  else (request.nextGroupIndex context).filter (· < request.getContextAutoGroups.length)

/-- `prepareAutoGroupRetryAfterRelayError`: the context and the parameters to go on with, if any. -/
def prepareAutoGroupRetryAfterRelayError (happening : Happening) (context : Context)
    (param : RetryParam) (error : RelayError) : Option (Context × RetryParam) :=
  match request.nextAutoGroupRetryIndex context with
  | none => none
  | some _ =>
    let decision := request.shouldRetryAutoGroupRelayError happening context error
    if decision.1 then
      (request.nextAutoGroupRetryIndex decision.2).map fun next =>
        ({ decision.2 with autoGroupIndex := some next }, param.startOver)
    else none

/-- What follows an error: the context and the parameters to go on with, if any. -/
def afterError (happening : Happening) (context : Context) (param : RetryParam)
    (error : RelayError) : Option (Context × RetryParam) :=
  let decision := request.shouldRetry happening context error
    (request.settings.retryTimes - param.retry)
  if decision.1 then some (decision.2, param)
  else request.prepareAutoGroupRetryAfterRelayError happening decision.2 param error

end Request

/-! ### What the decisions change -/

section Decisions

variable {request : Request} {happening : Happening} {context : Context} {error : RelayError}

namespace Request

theorem passAffinity_eq {retryTimes : Int} {passed : Context}
    (passes : request.passAffinity happening context error retryTimes = some passed) :
    ∃ skipRetry, passed = context.marked skipRetry := by
  rw [passAffinity] at passes
  split at passes
  · cases passes
    exact ⟨context.channelAffinitySkipRetry, rfl⟩
  · split at passes
    · cases passes
      exact clearCurrentChannelAffinityCache_eq happening context
    · cases passes

theorem shouldRetry_context (retryTimes : Int) :
    ∃ skipRetry, (request.shouldRetry happening context error retryTimes).2 =
      context.marked skipRetry := by
  rw [shouldRetry]
  split
  · exact ⟨context.channelAffinitySkipRetry, rfl⟩
  cases passes : request.passAffinity happening context error retryTimes with
  | none => exact ⟨context.channelAffinitySkipRetry, rfl⟩
  | some =>
    obtain ⟨skipRetry, rfl⟩ := passAffinity_eq passes
    dsimp only
    split
    · exact ⟨skipRetry, rfl⟩
    split
    · exact ⟨skipRetry, rfl⟩
    · split
      · exact ⟨skipRetry, rfl⟩
      · exact ⟨skipRetry, rfl⟩

theorem shouldRetryAutoGroupRelayError_context :
    ∃ skipRetry, (request.shouldRetryAutoGroupRelayError happening context error).2 =
      context.marked skipRetry := by
  rw [shouldRetryAutoGroupRelayError]
  split
  · exact ⟨context.channelAffinitySkipRetry, rfl⟩
  cases passes : request.passAffinity happening context error 1 with
  | none => exact ⟨context.channelAffinitySkipRetry, rfl⟩
  | some =>
    obtain ⟨skipRetry, rfl⟩ := passAffinity_eq passes
    dsimp only
    split
    · exact ⟨skipRetry, rfl⟩
    · split
      · exact ⟨skipRetry, rfl⟩
      · exact ⟨skipRetry, rfl⟩

theorem afterError_cases {param : RetryParam} {next : Context × RetryParam}
    (decided : request.afterError happening context param error = some next) :
    ((request.shouldRetry happening context error
        (request.settings.retryTimes - param.retry)).1 = true ∧
      ∃ skipRetry, next = (context.marked skipRetry, param)) ∨ ∃ before skipRetry index,
      (request.shouldRetryAutoGroupRelayError happening (context.marked before) error).1 = true ∧
      request.nextAutoGroupRetryIndex context = some index ∧
      next = ({ context.marked skipRetry with autoGroupIndex := some index }, param.startOver) := by
  obtain ⟨before, left⟩ := @shouldRetry_context request happening context error
    (request.settings.retryTimes - param.retry)
  rw [afterError, left] at decided
  split at decided
  · rename_i retries
    cases decided
    exact Or.inl ⟨retries, before, rfl⟩
  · rw [prepareAutoGroupRetryAfterRelayError] at decided
    split at decided
    · cases decided
    obtain ⟨skipRetry, left⟩ := @shouldRetryAutoGroupRelayError_context request happening
      (context.marked before) error
    dsimp only at decided
    rw [left] at decided
    split at decided
    · rename_i retries
      obtain ⟨index, found, rfl⟩ := Option.map_eq_some_iff.mp decided
      exact Or.inr ⟨before, skipRetry, index, retries, found, rfl⟩
    · cases decided

end Request

end Decisions

/-! ## The loop -/

/-- A call of a handler. -/
structure Attempt where
  channelID : Int
  /-- The group that `HandleGroupRatio` has found. -/
  group : String
  /-- When the channel was selected. -/
  selectedAt : Nat
  error : Option RelayError
  /-- Whether some byte of the response has been written when the handler returns. -/
  committed : Bool
  deriving DecidableEq, Repr

/-- The loop is at its head, or `getChannel` is about to set up a channel. -/
inductive Phase where
  | head
  | setup (channel : Channel)
  deriving DecidableEq, Repr

/-- The variables of `Relay`. -/
structure RelayState where
  clock : Nat
  phase : Phase := .head
  selectedAt : Nat
  context : Context
  param : RetryParam
  /-- `ChannelMeta` has been set. -/
  initialized : Bool := false
  /-- The channels that have been attempted or have failed in a setup, in this order. -/
  tried : List Int := []
  attempts : List Attempt := []
  error : Option RelayError := none
  deriving Repr

/-- What is left after the loop. -/
structure Relayed where
  context : Context
  tried : List Int
  attempts : List Attempt
  error : Option RelayError
  deriving DecidableEq, Repr

/-- The loop is left with an error. -/
def RelayState.fail (state : RelayState) (error : Option RelayError) : Relayed :=
  { context := state.context, tried := state.tried, attempts := state.attempts, error := error }

/-- The context when a handler returns. -/
def RelayState.called (state : RelayState) (happening : Happening) : Context :=
  { state.context with committed := state.context.committed || happening.written }

def RelayState.attemptOf (state : RelayState) (happening : Happening) (channelID : Int) : Attempt :=
  { channelID := channelID
    group := state.context.autoGroup.getD state.context.usingGroup
    selectedAt := state.selectedAt
    error := happening.handlerError
    committed := (state.called happening).committed }

/-- The loop is left after the call of a handler. -/
def RelayState.handled (state : RelayState) (happening : Happening) (channelID : Int)
    (error : Option RelayError) : Relayed :=
  { context := state.called happening
    tried := state.tried ++ [channelID]
    attempts := state.attempts ++ [state.attemptOf happening channelID]
    error := error }

/-- The error of a selection in `getChannel`. -/
def getChannelError (message : String) : RelayError :=
  { errorCode := errorCodeGetChannelFailed, skipRetry := true, message := message }

namespace Request

variable (request : Request)

/-- The error of the first selection in `getChannel`. -/
def selectError (selectGroup : String) : SelectError → RelayError
  | .relayLoopNoAvailableChannel group model =>
    relayLoopError (SelectError.relayLoopNoAvailableChannel group model).message
  | error => getChannelError ("获取分组 " ++ selectGroup ++ " 下模型 " ++ request.modelName ++
      " 的可用渠道失败（retry）: " ++ error.message)

/-- The error of a later selection: that of the setup, unless all channels are excluded because the
request has come through them. -/
def nextSelectError (setupError : RelayError) : SelectError → RelayError
  | .relayLoopNoAvailableChannel group model =>
    relayLoopError (SelectError.relayLoopNoAvailableChannel group model).message
  | _ => setupError

def attempt (happening : Happening) (state : RelayState) (channelID : Int) :
    Round RelayState Relayed :=
  match request.checkRelayLoopForChannel channelID with
  | some error => .stop (state.fail (some error))
  | none =>
    match happening.bodyError with
    | some error => .stop (state.fail (some error))
    | none =>
      match happening.handlerError with
      | none => .stop (state.handled happening channelID none)
      | some raw =>
        let error := raw.normalizeViolationFeeError
        match request.afterError happening (state.called happening)
            (state.param.excludeChannel channelID) error with
        | none => .stop (state.handled happening channelID (some error))
        | some (context, param) => .again
            { clock := state.clock + 1
              selectedAt := state.selectedAt
              context := context
              param := param.increaseRetry
              initialized := true
              tried := state.tried ++ [channelID]
              attempts := state.attempts ++ [state.attemptOf happening channelID]
              error := some error }

def toSetup (state : RelayState) (selection : Selection) (channel : Channel) : RelayState :=
  { state with
    clock := state.clock + 1
    phase := .setup channel
    selectedAt := state.clock
    context := selection.context
    param := selection.param }

/-- The first selection of `getChannel`. -/
def selectRound (happening : Happening) (state : RelayState) : Round RelayState Relayed :=
  let selection := request.cacheGetRandomSatisfiedChannel happening.moment state.context
    state.param
  match selection.channel with
  | .error error =>
    .stop ({ state with context := selection.context }.fail
      (some (request.selectError selection.selectGroup error)))
  | .ok none =>
    .stop ({ state with context := selection.context }.fail
      (some (getChannelError ("分组 " ++ selection.selectGroup ++ " 下模型 " ++
        request.modelName ++ " 的可用渠道不存在（retry）"))))
  | .ok (some channel) => .again (toSetup state selection channel)

/-- The setup of a channel in `getChannel` has failed: another one is selected. -/
def reselectRound (happening : Happening) (state : RelayState) (channelID : Int)
    (error : RelayError) : Round RelayState Relayed :=
  let failed := { state with tried := state.tried ++ [channelID] }
  if ¬request.settings.shouldRetryChannelSetupError error ∨
      state.context.channelAffinitySkipRetry then .stop (failed.fail (some error))
  else
    let selection := request.cacheGetRandomSatisfiedChannel happening.moment state.context
      (state.param.excludeChannel channelID)
    match selection.channel with
    | .error selectError =>
      .stop ({ failed with context := selection.context }.fail
        (some (nextSelectError error selectError)))
    | .ok none => .stop ({ failed with context := selection.context }.fail (some error))
    | .ok (some channel) => .again (toSetup failed selection channel)

/-- A part of the loop: up to a setup, or from a setup on. -/
def relayRound (world : Nat → Happening) (state : RelayState) : Round RelayState Relayed :=
  match state.phase with
  | .head =>
    if request.settings.retryTimes < state.param.retry then .stop (state.fail state.error)
    else if ¬state.initialized then
      request.attempt (world state.clock) state state.context.channelID
    else request.selectRound (world state.clock) state
  | .setup channel =>
    let setup := request.setupContextForSelectedChannel (world state.clock) state.context channel
    match setup.1 with
    | none => request.attempt (world state.clock) { state with context := setup.2 } channel.id
    | some error =>
      request.reselectRound (world state.clock) { state with context := setup.2 } channel.id
        error

/-- The variables at the start of the loop. -/
def relayStart (ready : Ready) : RelayState :=
  { clock := ready.clock
    selectedAt := ready.selectedAt
    context := ready.context
    param :=
      { tokenGroup := if ready.context.tokenGroup = "" then request.userGroup
          else ready.context.tokenGroup } }

/-- `Relay`, with a bound on the parts of its loop. -/
def relay (world : Nat → Happening) (ready : Ready) (rounds : Nat) : Option Relayed :=
  runLoop (request.relayRound world) rounds (request.relayStart ready)

end Request

/-! ## What a round can do -/

/-- The channel that is to be attempted next, if there is one. -/
def RelayState.current (state : RelayState) : Option Int :=
  match state.phase with
  | .head => if state.initialized then none else some state.context.channelID
  | .setup channel => some channel.id

/-- The parameters of a selection that a round may make. -/
def RelayState.selectParam (state : RelayState) : RetryParam :=
  match state.phase with
  | .head => state.param
  | .setup channel => state.param.excludeChannel channel.id

def RelayState.arrived (state : RelayState) (id : Int) : RelayState :=
  { state with context := { state.context with channelID := id } }

section Rounds

variable {request : Request} {world : Nat → Happening} {happening : Happening}
  {state next : RelayState} {relayed : Relayed} {channelID : Int}

namespace Request

theorem attempt_again (again : request.attempt happening state channelID = .again next) :
    request.checkRelayLoopForChannel channelID = none ∧
    ∃ raw context param, happening.handlerError = some raw ∧
      request.afterError happening (state.called happening) (state.param.excludeChannel channelID)
        raw.normalizeViolationFeeError = some (context, param) ∧
      next =
        { clock := state.clock + 1
          selectedAt := state.selectedAt
          context := context
          param := param.increaseRetry
          initialized := true
          tried := state.tried ++ [channelID]
          attempts := state.attempts ++ [state.attemptOf happening channelID]
          error := some raw.normalizeViolationFeeError } := by
  rw [attempt] at again
  split at again
  · cases again
  rename_i checked
  split at again
  · cases again
  cases handled : happening.handlerError with
  | none =>
    simp only [handled] at again
    cases again
  | some raw =>
    simp only [handled] at again
    split at again
    · cases again
    · rename_i context param decided
      cases again
      exact ⟨checked, raw, context, param, rfl, decided, rfl⟩

/-- The loop is left without a call of the handler, or after one. -/
theorem attempt_stop (stop : request.attempt happening state channelID = .stop relayed) :
    (∃ error, relayed = state.fail error) ∨ request.checkRelayLoopForChannel channelID = none ∧
        ∃ error, relayed = state.handled happening channelID error := by
  rw [attempt] at stop
  split at stop
  · cases stop
    exact Or.inl ⟨_, rfl⟩
  rename_i checked
  split at stop
  · cases stop
    exact Or.inl ⟨_, rfl⟩
  split at stop
  · cases stop
    exact Or.inr ⟨checked, _, rfl⟩
  dsimp only at stop
  split at stop
  · cases stop
    exact Or.inr ⟨checked, _, rfl⟩
  · cases stop

theorem relayRound_cases (request : Request) (world : Nat → Happening) (state : RelayState) :
    request.relayRound world state = .stop (state.fail state.error) ∨
      (∃ id ∈ state.current, request.relayRound world state =
        request.attempt (world state.clock) (state.arrived id) id) ∨
      (state.phase = .head ∧ state.initialized = true ∧
        request.relayRound world state = request.selectRound (world state.clock) state) ∨
      ∃ channel id error, state.phase = .setup channel ∧ request.relayRound world state =
        request.reselectRound (world state.clock) (state.arrived id) channel.id error := by
  rw [relayRound, RelayState.current]
  cases state.phase with
  | head =>
    dsimp only
    split
    · exact Or.inl rfl
    · cases initialized : state.initialized with
      | false => exact Or.inr (Or.inl ⟨state.context.channelID, rfl, rfl⟩)
      | true => exact Or.inr (Or.inr (Or.inl ⟨rfl, rfl, rfl⟩))
  | setup channel =>
    dsimp only
    cases setupContextForSelectedChannel_cases (world state.clock) state.context channel with
    | inl succeeds =>
      rw [succeeds]
      exact Or.inr (Or.inl ⟨channel.id, rfl, rfl⟩)
    | inr fails =>
      obtain ⟨error, id, fails⟩ := fails
      rw [fails]
      exact Or.inr (Or.inr (Or.inr ⟨channel, id, error, rfl, rfl⟩))

theorem relayRound_again (again : request.relayRound world state = .again next) :
    (∃ id ∈ state.current,
      request.attempt (world state.clock) (state.arrived id) id = .again next) ∨
    ∃ id failed channel, (failed = [] ∧ state.phase = .head ∨
        ∃ other, failed = [other.id] ∧ state.phase = .setup other) ∧
      (request.cacheGetRandomSatisfiedChannel (world state.clock).moment (state.arrived id).context
        state.selectParam).channel = .ok (some channel) ∧
      next = toSetup { state.arrived id with tried := state.tried ++ failed }
        (request.cacheGetRandomSatisfiedChannel (world state.clock).moment
          (state.arrived id).context state.selectParam) channel := by
  rw [RelayState.selectParam]
  rcases request.relayRound_cases world state with ends | ⟨id, current, attempts⟩ |
    ⟨atHead, -, selects⟩ | ⟨other, id, error, inSetup, reselects⟩
  · rw [ends] at again
    cases again
  · exact Or.inl ⟨id, current, attempts ▸ again⟩
  · rw [selects] at again
    rw [selectRound] at again
    split at again
    · cases again
    · cases again
    rename_i channel found
    cases again
    refine Or.inr ⟨state.context.channelID, [], channel, Or.inl ⟨rfl, atHead⟩, ?_⟩
    rw [atHead, List.append_nil]
    exact ⟨found, rfl⟩
  · rw [reselects] at again
    rw [reselectRound] at again
    dsimp only at again
    split at again
    · cases again
    split at again
    · cases again
    · cases again
    rename_i channel found
    cases again
    refine Or.inr ⟨id, [other.id], channel, Or.inr ⟨other, rfl, inSetup⟩, ?_⟩
    rw [inSetup]
    exact ⟨found, rfl⟩

theorem relayRound_stop (stop : request.relayRound world state = .stop relayed) :
    state.context.IndexLE relayed.context ∧
      (relayed.attempts = state.attempts ∧ (relayed.tried = state.tried ∨
          ∃ id ∈ state.current, relayed.tried = state.tried ++ [id]) ∨
        ∃ id ∈ state.current, request.checkRelayLoopForChannel id = none ∧
          relayed.tried = state.tried ++ [id] ∧ relayed.attempts =
            state.attempts ++ [(state.arrived id).attemptOf (world state.clock) id]) := by
  rcases request.relayRound_cases world state with ends | ⟨id, current, attempts⟩ |
    ⟨-, -, selects⟩ | ⟨channel, id, error, inSetup, reselects⟩
  · rw [ends] at stop
    cases stop
    exact ⟨Context.IndexLE.of_eq rfl, Or.inl ⟨rfl, Or.inl rfl⟩⟩
  · rw [attempts] at stop
    rcases attempt_stop stop with ⟨error, rfl⟩ | ⟨checked, error, rfl⟩
    · exact ⟨Context.IndexLE.of_eq rfl, Or.inl ⟨rfl, Or.inl rfl⟩⟩
    · exact ⟨Context.IndexLE.of_eq rfl, Or.inr ⟨id, current, checked, rfl, rfl⟩⟩
  · rw [selects] at stop
    have keeps := request.cacheGetRandomSatisfiedChannel_keeps (world state.clock).moment
      state.context state.param
    rw [selectRound] at stop
    split at stop
    · cases stop
      exact ⟨keeps.index, Or.inl ⟨rfl, Or.inl rfl⟩⟩
    · cases stop
      exact ⟨keeps.index, Or.inl ⟨rfl, Or.inl rfl⟩⟩
    · cases stop
  · rw [reselects] at stop
    have current : channel.id ∈ state.current := by
      rw [RelayState.current, inSetup]
      rfl
    rw [reselectRound] at stop
    dsimp only at stop
    split at stop
    · cases stop
      exact ⟨Context.IndexLE.of_eq rfl, Or.inl ⟨rfl, Or.inr ⟨channel.id, current, rfl⟩⟩⟩
    have index := (request.cacheGetRandomSatisfiedChannel_keeps (world state.clock).moment
      (state.arrived id).context (state.param.excludeChannel channel.id)).index
    split at stop
    · cases stop
      exact ⟨index, Or.inl ⟨rfl, Or.inr ⟨channel.id, current, rfl⟩⟩⟩
    · cases stop
      exact ⟨index, Or.inl ⟨rfl, Or.inr ⟨channel.id, current, rfl⟩⟩⟩
    · cases stop

end Request

end Rounds

end StuHelper.Routing
