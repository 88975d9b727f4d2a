import StuHelper.Routing.Select

/-!
# The distributor

`Distribute` finds the first channel of a request: the channel that the request is pinned to, the
one that the affinity cache prefers if it can be used, or one that is selected.  A channel whose
setup fails is excluded, and another one is selected.
-/

namespace StuHelper.Routing

open Lib

/-- What happens outside while a request makes one step. -/
structure Happening where
  moment : Moment
  /-- What `GetPreferredChannelByAffinity` finds. -/
  preferred : Option Int := none
  /-- The affinity cache cannot delete an entry. -/
  deleteFails : Bool := false
  /-- The error of `GetNextEnabledKey`. -/
  keyError : Option RelayError := none
  /-- The error of `GetBodyStorage`. -/
  bodyError : Option RelayError := none
  /-- What the handler returns. -/
  handlerError : Option RelayError := none
  /-- The handler writes to the response. -/
  written : Bool := false

/-- The errors of `CheckRelayLoopForChannel`. -/
def relayLoopError (message : String) : RelayError :=
  { errorCode := errorCodeChannelRelayLoop
    statusCode := 508
    skipRetry := true
    message := message }

def unsupportedPathError (channelID : Int) (requestPath : String) : RelayError :=
  { errorCode := errorCodeGetChannelFailed
    statusCode := 503
    message := "advanced custom channel #" ++ toString channelID ++
      " does not support request path: " ++ requestPath }

abbrev maxRelayLoopHops : Nat := 8

/-- The mark of the affinity rule is changed. -/
def Context.marked (context : Context) (skipRetry : Bool) : Context :=
  { context with channelAffinitySkipRetry := skipRetry }

namespace Request

variable (request : Request)

def checkRelayLoopForChannel (channelID : Int) : Option RelayError :=
  if request.relayLoopChannelIDs = [] then none
  else if channelID ∈ request.relayLoopChannelIDs then
    some (relayLoopError ("检测到自引用 relay 循环：渠道 #" ++ toString channelID ++
      " 已在当前请求链路中出现，请不要把本站 auto 令牌作为同站点渠道的上游 key 使用"))
  else if request.relayLoopChannelIDs.length ≥ maxRelayLoopHops then
    some (relayLoopError ("relay 链路跳数过多（" ++ toString request.relayLoopChannelIDs.length ++
      "），已中止以避免递归调用"))
  else none

def setupContextForSelectedChannel (happening : Happening) (context : Context)
    (channel : Channel) : Option RelayError × Context :=
  match request.checkRelayLoopForChannel channel.id with
  | some error => (some error, context)
  | none =>
    if ¬channel.supportsRequestPath request.requestPath then
      (some (unsupportedPathError channel.id request.requestPath), context)
    else (happening.keyError, { context with channelID := channel.id })

/-! ## The first channel -/

def clearCurrentChannelAffinityCache (happening : Happening) (context : Context) : Context :=
  if request.affinityRule.isSome ∧ ¬happening.deleteFails then
    { context with channelAffinitySkipRetry := false }
  else context

def markChannelAffinityUsed (context : Context) (channelID : Int) : Context :=
  match request.affinityRule with
  | some skipRetry =>
    if channelID ≤ 0 then context else { context with channelAffinitySkipRetry := skipRetry }
  | none => context

def cacheGetChannel (moment : Moment) (id : Int) : Option Channel :=
  match moment.cache with
  | some cache => cache.byId id
  | none => findChannel moment.database.channels id

def isChannelEnabledForGroupModel (moment : Moment) (group : String) (channelID : Int) : Bool :=
  let listed : String → Bool := fun model =>
    match moment.cache with
    | some cache => channelID ∈ cache.lists group model
    | none => moment.database.abilities.any fun ability =>
      ability.group = group ∧ ability.model = model ∧ ability.channelId = channelID ∧
        ability.enabled
  decide (group ≠ "" ∧ request.modelName ≠ "" ∧ 0 < channelID) &&
    (routableModelCandidates request.modelName).any listed

def usablePreferred (happening : Happening) (context : Context) (id : Int) :
    Option (Channel × Context) :=
  match cacheGetChannel happening.moment id with
  | none => none
  | some preferred =>
    if ¬preferred.isEnabled ∨ ¬preferred.supportsRequestPath request.requestPath then none
    else if context.usingGroup = "auto" then
      (request.getContextAutoGroups.find? fun group =>
        request.isChannelEnabledForGroupModel happening.moment group preferred.id).map
          fun group => (preferred, request.markChannelAffinityUsed
            (context.setSelectedAutoGroup group) preferred.id)
    else if request.isChannelEnabledForGroupModel happening.moment context.usingGroup
        preferred.id then
      some (preferred, request.markChannelAffinityUsed context preferred.id)
    else none

inductive Abort where
  | invalidRequest
  | invalidChannelID
  | channelDisabled
  | select (error : SelectError)
  | noAvailableChannel
  | setup (error : RelayError)
  deriving DecidableEq, Repr

def pinnedChannel (moment : Moment) (text : String) : Except Abort Channel :=
  match Text.atoi text.toList with
  | none => .error .invalidChannelID
  | some id =>
    match findChannel moment.database.channels id with
    | none => .error .invalidChannelID
    | some channel => if channel.isEnabled then .ok channel else .error .channelDisabled

/-- The selection of the distributor. -/
def selectFirst (happening : Happening) (context : Context) : Except Abort (Channel × Context) :=
  let selection := request.cacheGetRandomSatisfiedChannel happening.moment context
    { tokenGroup := context.usingGroup }
  match selection.channel with
  | .error error => .error (.select error)
  | .ok none => .error .noAvailableChannel
  | .ok (some channel) => .ok (channel, selection.context)

def firstChannel (happening : Happening) (context : Context) : Except Abort (Channel × Context) :=
  match request.specificChannelID with
  | some text => (pinnedChannel happening.moment text).map fun channel => (channel, context)
  | none =>
    if request.modelName = "" then .error .invalidRequest
    else
      match happening.preferred with
      | none => request.selectFirst happening context
      | some id =>
        match request.usablePreferred happening context id with
        | some used => .ok used
        | none => request.selectFirst happening
            (if request.keepOnChannelDisabled then context
            else request.clearCurrentChannelAffinityCache happening context)

/-! ## Its setup -/

/-- `setupSelectedChannelWithFallback` before a setup. -/
structure Fallback where
  clock : Nat
  channel : Channel
  selectedAt : Nat
  context : Context
  param : RetryParam

/-- A request that has a channel. -/
structure Ready where
  clock : Nat
  selectedAt : Nat
  context : Context
  deriving DecidableEq, Repr

/-- One setup of `setupSelectedChannelWithFallback`, and the selection after it. -/
def setupRound (world : Nat → Happening) (state : Fallback) : Round Fallback (Except Abort Ready) :=
  let setup := request.setupContextForSelectedChannel (world state.clock) state.context
    state.channel
  match setup.1 with
  | none => .stop (.ok ⟨state.clock + 1, state.selectedAt, setup.2⟩)
  | some error =>
    if state.channel.id ≤ 0 ∨ ¬request.settings.shouldRetryChannelSetupError error ∨
        request.specificChannelID.isSome ∨ setup.2.channelAffinitySkipRetry then
      .stop (.error (.setup error))
    else
      let selection := request.cacheGetRandomSatisfiedChannel (world state.clock).moment setup.2
        (state.param.excludeChannel state.channel.id)
      match selection.channel with
      | .ok (some channel) =>
        .again ⟨state.clock + 1, channel, state.clock, selection.context, selection.param⟩
      | _ => .stop (.error (.setup error))

/-- The parameters of `setupSelectedChannelWithFallback`. -/
def fallbackParam (context : Context) : RetryParam :=
  { tokenGroup := if context.tokenGroup = "" then context.usingGroup else context.tokenGroup }

/-- `Distribute`, with a bound on the setups. -/
def distribute (world : Nat → Happening) (context : Context) (rounds : Nat) :
    Option (Except Abort Ready) :=
  match request.firstChannel (world 0) context with
  | .error abort => some (.error abort)
  | .ok (channel, context) =>
    runLoop (request.setupRound world) rounds ⟨1, channel, 0, context, fallbackParam context⟩

end Request

/-! ## What the distributor can do -/

section Steps

variable {request : Request} {world : Nat → Happening} {happening : Happening}
  {context : Context}

namespace Request

theorem clearCurrentChannelAffinityCache_eq (happening : Happening) (context : Context) :
    ∃ skipRetry, request.clearCurrentChannelAffinityCache happening context =
      context.marked skipRetry := by
  rw [clearCurrentChannelAffinityCache]
  split
  · exact ⟨false, rfl⟩
  · exact ⟨context.channelAffinitySkipRetry, rfl⟩

theorem markChannelAffinityUsed_eq (context : Context) (channelID : Int) :
    ∃ skipRetry, request.markChannelAffinityUsed context channelID = context.marked skipRetry := by
  rw [markChannelAffinityUsed]
  split
  · split
    · exact ⟨context.channelAffinitySkipRetry, rfl⟩
    · exact ⟨_, rfl⟩
  · exact ⟨context.channelAffinitySkipRetry, rfl⟩

variable {used : Channel × Context}

theorem usablePreferred_some {id : Int}
    (usable : request.usablePreferred happening context id = some used) :
    cacheGetChannel happening.moment id = some used.1 ∧
      ((context.usingGroup ≠ "auto" ∧ ∃ skipRetry, used.2 = context.marked skipRetry) ∨
        ∃ group ∈ request.getContextAutoGroups, ∃ skipRetry,
          used.2 = (context.setSelectedAutoGroup group).marked skipRetry) := by
  rw [usablePreferred] at usable
  split at usable
  · cases usable
  rename_i preferred found
  split at usable
  · cases usable
  split at usable
  · obtain ⟨group, listed, rfl⟩ := Option.map_eq_some_iff.mp usable
    exact ⟨found, Or.inr ⟨group, List.mem_of_find?_eq_some listed,
      markChannelAffinityUsed_eq _ _⟩⟩
  · rename_i single
    split at usable
    · cases usable
      exact ⟨found, Or.inl ⟨single, markChannelAffinityUsed_eq _ _⟩⟩
    · cases usable

theorem selectFirst_ok (chosen : request.selectFirst happening context = .ok used) :
    (request.cacheGetRandomSatisfiedChannel happening.moment context
        { tokenGroup := context.usingGroup }).channel = .ok (some used.1) ∧
      used.2 = (request.cacheGetRandomSatisfiedChannel happening.moment context
        { tokenGroup := context.usingGroup }).context := by
  rw [selectFirst] at chosen
  split at chosen
  · cases chosen
  · cases chosen
  · rename_i found
    cases chosen
    exact ⟨found, rfl⟩

theorem firstChannel_cases (first : request.firstChannel happening context = .ok used) :
    (request.specificChannelID.isSome = true ∧ used.1 ∈ happening.moment.database.channels ∧
        used.2 = context) ∨
      (∃ id ∈ happening.preferred, request.usablePreferred happening context id = some used) ∨
      ∃ skipRetry, request.selectFirst happening (context.marked skipRetry) = .ok used := by
  rw [firstChannel] at first
  cases pinned : request.specificChannelID with
  | some text =>
    simp only [pinned] at first
    rw [pinnedChannel] at first
    split at first
    · cases first
    split at first
    · cases first
    rename_i channel found
    split at first
    · cases first
      exact Or.inl ⟨rfl, List.mem_of_find?_eq_some found, rfl⟩
    · cases first
  | none =>
    simp only [pinned] at first
    split at first
    · cases first
    cases preferred : happening.preferred with
    | none =>
      simp only [preferred] at first
      exact Or.inr (Or.inr ⟨context.channelAffinitySkipRetry, first⟩)
    | some id =>
      simp only [preferred] at first
      cases usable : request.usablePreferred happening context id with
      | some =>
        simp only [usable] at first
        cases first
        exact Or.inr (Or.inl ⟨id, rfl, usable⟩)
      | none =>
        simp only [usable] at first
        split at first
        · exact Or.inr (Or.inr ⟨context.channelAffinitySkipRetry, first⟩)
        · obtain ⟨skipRetry, cleared⟩ :=
            @clearCurrentChannelAffinityCache_eq request happening context
          rw [cleared] at first
          exact Or.inr (Or.inr ⟨skipRetry, first⟩)

theorem setupContextForSelectedChannel_cases (happening : Happening) (context : Context)
    (channel : Channel) :
    request.setupContextForSelectedChannel happening context channel =
        (none, { context with channelID := channel.id }) ∨
      ∃ error id, request.setupContextForSelectedChannel happening context channel =
        (some error, { context with channelID := id }) := by
  rw [setupContextForSelectedChannel]
  split
  · exact Or.inr ⟨_, context.channelID, rfl⟩
  split
  · exact Or.inr ⟨_, context.channelID, rfl⟩
  · cases happening.keyError with
    | none => exact Or.inl rfl
    | some error => exact Or.inr ⟨error, channel.id, rfl⟩

theorem setupRound_again {state next : Fallback}
    (again : request.setupRound world state = .again next) :
    ∃ id channel, (request.cacheGetRandomSatisfiedChannel (world state.clock).moment
        { state.context with channelID := id }
        (state.param.excludeChannel state.channel.id)).channel = .ok (some channel) ∧
      next = ⟨state.clock + 1, channel, state.clock,
        (request.cacheGetRandomSatisfiedChannel (world state.clock).moment
          { state.context with channelID := id }
          (state.param.excludeChannel state.channel.id)).context,
        (request.cacheGetRandomSatisfiedChannel (world state.clock).moment
          { state.context with channelID := id }
          (state.param.excludeChannel state.channel.id)).param⟩ := by
  rw [setupRound] at again
  cases setupContextForSelectedChannel_cases (world state.clock) state.context state.channel with
  | inl succeeds =>
    rw [succeeds] at again
    cases again
  | inr fails =>
    obtain ⟨_, id, fails⟩ := fails
    rw [fails] at again
    dsimp only at again
    split at again
    · cases again
    split at again
    · rename_i channel found
      cases again
      exact ⟨id, channel, found, rfl⟩
    · cases again

theorem distribute_ready {Inv : Fallback → Prop} {rounds : Nat} {ready : Ready}
    (first : ∀ used, request.firstChannel (world 0) context = .ok used →
      Inv ⟨1, used.1, 0, used.2, fallbackParam used.2⟩)
    (keeps : ∀ state next, Inv state → request.setupRound world state = .again next → Inv next)
    (distributed : request.distribute world context rounds = some (.ok ready)) :
    ∃ state, Inv state ∧ ready = ⟨state.clock + 1, state.selectedAt,
      { state.context with channelID := state.channel.id }⟩ := by
  rw [distribute] at distributed
  split at distributed
  · cases distributed
  rename_i channel left found
  obtain ⟨state, inv, stop⟩ := runLoop_stopped keeps (first (channel, left) found) distributed
  refine ⟨state, inv, ?_⟩
  rw [setupRound] at stop
  cases setupContextForSelectedChannel_cases (world state.clock) state.context state.channel with
  | inl succeeds =>
    rw [succeeds] at stop
    cases stop
    rfl
  | inr fails =>
    obtain ⟨_, _, fails⟩ := fails
    rw [fails] at stop
    dsimp only at stop
    split at stop
    · cases stop
    · split at stop
      · cases stop
      · cases stop

end Request

end Steps

end StuHelper.Routing
