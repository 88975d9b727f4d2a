import StuHelper.Routing.Breaker
import StuHelper.Routing.Pick

/-!
# Selecting a channel for a request

`CacheGetRandomSatisfiedChannel` picks a channel that is not excluded: the channels that have
failed in this request, those that the request has come through already, and those whose breakers
are open are.  For the group "auto" it goes through the groups of the user, from the index that is
stored in the context of the request.

The tables, the breakers and the time change between two selections in any way.
-/

namespace StuHelper.Routing

open Lib List

/-! ## The groups of a user -/

/-- The function `appendGroup` in `GetUserAutoGroupWithPriority`. -/
def appendGroup (usable groups : List String) (group : String) : List String :=
  if Text.trimSpace group = "" ∨ Text.trimSpace group = "auto" ∨ Text.trimSpace group ∉ usable ∨
      Text.trimSpace group ∈ groups then groups
  else groups ++ [Text.trimSpace group]

/-- `GetUserAutoGroupWithPriority`, with the usable groups of the user. -/
def getUserAutoGroupWithPriority (usable preferredGroups autoGroups : List String) : List String :=
  (preferredGroups ++ autoGroups).foldl (appendGroup usable) []

theorem getUserAutoGroupWithPriority_nodup (usable preferredGroups autoGroups : List String) :
    (getUserAutoGroupWithPriority usable preferredGroups autoGroups).Nodup ∧
      "" ∉ getUserAutoGroupWithPriority usable preferredGroups autoGroups := by
  refine foldlRecOn (motive := fun groups => groups.Nodup ∧ "" ∉ groups) _ _
    ⟨nodup_nil, not_mem_nil⟩ fun groups inv name _ => ?_
  rw [appendGroup]
  split
  · exact inv
  next fresh =>
    rw [not_or, not_or, not_or] at fresh
    rw [mem_append, mem_singleton, not_or, ← concat_eq_append, nodup_concat]
    exact ⟨⟨fresh.2.2.2, inv.1⟩, inv.2, fun named => fresh.1 named.symm⟩

/-! ## Requests -/

/-- What a request and the settings say; this stays as it is. -/
structure Request where
  settings : Settings
  breaker : BreakerConfig := {}
  modelName : String
  requestPath : String := "/v1/chat/completions"
  userGroup : String := "default"
  /-- The keys of `GetUserUsableGroups`. -/
  usableGroups : List String := []
  /-- The groups of the token. -/
  preferredGroups : List String := []
  /-- The groups of the site. -/
  autoGroups : List String := []
  crossGroupRetry : Bool := false
  /-- The text of `specific_channel_id`, if the request is pinned. -/
  specificChannelID : Option String := none
  /-- `GetRelayLoopChannelIDs`. -/
  relayLoopChannelIDs : List Int := []
  /-- Whether the affinity rule that matches, if one does, skips retries. -/
  affinityRule : Option Bool := none
  keepOnChannelDisabled : Bool := false

structure Context where
  tokenGroup : String
  usingGroup : String
  autoGroup : Option String := none
  autoGroupIndex : Option Nat := none
  channelAffinitySkipRetry : Bool := false
  channelID : Int := 0
  /-- Some byte of the response has been written. -/
  committed : Bool := false
  deriving DecidableEq, Repr

/-- `RetryParam`, with what changes. -/
structure RetryParam where
  tokenGroup : String
  retry : Nat := 0
  excludeChannelIDs : List Int := []
  resetNextTry : Bool := false
  deriving DecidableEq, Repr

namespace RetryParam

variable (param : RetryParam)

def increaseRetry : RetryParam :=
  if param.resetNextTry then { param with resetNextTry := false }
  else { param with retry := param.retry + 1 }

/-- `SetRetry(0)` and `ResetRetryNextTry`. -/
def startOver : RetryParam := { param with retry := 0, resetNextTry := true }

def excludeChannel (channelID : Int) : RetryParam :=
  { param with excludeChannelIDs := withExcludedChannelID param.excludeChannelIDs channelID }

theorem increaseRetry_keeps : param.increaseRetry.excludeChannelIDs = param.excludeChannelIDs ∧
    param.increaseRetry.tokenGroup = param.tokenGroup := by
  rw [increaseRetry]
  split
  · exact ⟨rfl, rfl⟩
  · exact ⟨rfl, rfl⟩

end RetryParam

def Context.setSelectedAutoGroup (context : Context) (group : String) : Context :=
  if group = "" then context else { context with autoGroup := some group, usingGroup := group }

/-- The group of the token is filled in when it is empty. -/
def Context.withTokenGroup (context : Context) (param : RetryParam) : Context :=
  if param.tokenGroup ≠ "" ∧ context.tokenGroup = "" then
    { context with tokenGroup := param.tokenGroup }
  else context

/-- The tables, the random numbers and the breakers as a selection finds them.  Without a memory
cache, channels are picked from the database. -/
structure Moment where
  database : Database
  cache : Option Cache := none
  random : Nat → Nat := fun _ => 0
  now : Int := 0
  history : List BreakerEvent := []

namespace Moment

variable (moment : Moment)

/-- `GetRandomSatisfiedChannelExcludingForPath`.  The calls to the database come to an end. -/
def getRandomSatisfiedChannelExcludingForPath (group model : String) (retry : Nat)
    (exclude : List Int) (requestPath : String) : Except String (Option Channel) :=
  match moment.cache with
  | some cache => cache.getRandomSatisfiedChannelExcludingForPath group model retry exclude
      requestPath (moment.random 0)
  | none =>
    (moment.database.getChannelExcludingForPath group model retry exclude requestPath
      moment.random (remaining (moment.database.channels.map Channel.id) exclude + 1)).getD
      (.ok none)

/-- The channels of the tables have ids from a list. -/
structure Within (ids : List Int) : Prop where
  stored : ∀ channel ∈ moment.database.channels, channel.id ∈ ids
  cached : ∀ cache ∈ moment.cache, ∀ id channel, cache.byId id = some channel → id ∈ ids

/-- A channel of the tables. -/
def Holds (channel : Channel) : Prop :=
  channel ∈ moment.database.channels ∨ ∃ cache ∈ moment.cache, cache.byId channel.id = some channel

variable {moment} {group model : String} {retry : Nat} {exclude : List Int} {requestPath : String}
  {channel : Channel}

theorem pick_some (picked : moment.getRandomSatisfiedChannelExcludingForPath group model retry
    exclude requestPath = .ok (some channel)) : moment.Holds channel ∧ channel.id ∉ exclude := by
  rw [getRandomSatisfiedChannelExcludingForPath] at picked
  cases cached : moment.cache with
  | some cache =>
    rw [cached] at picked
    obtain ⟨-, known, kept⟩ := Cache.pick_some picked
    exact ⟨Or.inr ⟨cache, cached, known⟩, kept⟩
  | none =>
    -- the calls come to an end
    obtain ⟨_, ended, -⟩ := @runLoop_of_measure _ _
      (moment.database.pickRound group model retry requestPath moment.random)
      (fun _ => True) (fun state => remaining (moment.database.channels.map Channel.id) state.1)
      (fun _ _ _ again => ⟨trivial, Database.pickRound_remaining again⟩) (exclude, 0)
      trivial
    simp only [cached, Database.getChannelExcludingForPath, ended, Option.getD_some] at picked
    rw [picked] at ended
    obtain ⟨stored, kept⟩ := Database.pick_some ended
    exact ⟨Or.inl stored, kept⟩

theorem Within.mem {ids : List Int} (within : moment.Within ids) (holds : moment.Holds channel) :
    channel.id ∈ ids := by
  cases holds with
  | inl stored => exact within.stored channel stored
  | inr known =>
    obtain ⟨cache, cached, found⟩ := known
    exact within.cached cache cached channel.id channel found

end Moment

namespace Request

variable (request : Request)

def getContextAutoGroups : List String :=
  getUserAutoGroupWithPriority request.usableGroups request.preferredGroups request.autoGroups

def relayLoopExcludeChannelIDs : List Int := request.relayLoopChannelIDs.filter (0 < ·)

def breakers (moment : Moment) : Breakers :=
  breakersAfter request.breaker request.settings moment.history

def Cooling (moment : Moment) (channelID : Int) : Prop :=
  (request.breakers moment).Cooling moment.now channelID

instance (moment : Moment) (channelID : Int) : Decidable (request.Cooling moment channelID) :=
  inferInstanceAs (Decidable ((request.breakers moment).Cooling moment.now channelID))

def breakerOpenChannelIDs (moment : Moment) : List Int :=
  (request.breakers moment).breakerOpenChannelIDs request.breaker moment.now

/-- The channels that a selection excludes. -/
def excludeChannelIDs (moment : Moment) (param : RetryParam) : List Int :=
  param.excludeChannelIDs ++ request.relayLoopExcludeChannelIDs ++
    request.breakerOpenChannelIDs moment

def pick (moment : Moment) (exclude : List Int) (group : String) (retry : Nat) :
    Except String (Option Channel) :=
  moment.getRandomSatisfiedChannelExcludingForPath group request.modelName retry exclude
    request.requestPath

end Request

/-! ## Selections -/

inductive SelectError where
  /-- `ErrRelayLoopNoAvailableChannel`. -/
  | relayLoopNoAvailableChannel (group model : String)
  /-- `ErrNoAvailableChannelAfterExclusions`. -/
  | noAvailableChannelAfterExclusions (group model : String)
  | failed (message : String)
  deriving DecidableEq, Repr

def SelectError.message : SelectError → String
  | .relayLoopNoAvailableChannel group model =>
    "relay loop guard excluded all available channels: group=" ++ group ++ ", model=" ++ model
  | .noAvailableChannelAfterExclusions group model =>
    "excluded all available channels: group=" ++ group ++ ", model=" ++ model
  | .failed message => message

/-- What a selection returns, and the context and the parameters that it leaves. -/
structure Selection where
  channel : Except SelectError (Option Channel)
  selectGroup : String
  context : Context
  param : RetryParam
  deriving Repr

namespace Request

variable (request : Request)

def selected (group : String) (index priorityRetry : Nat) (channel : Channel) (context : Context)
    (param : RetryParam) : Selection :=
  if request.crossGroupRetry ∧ request.settings.retryTimes ≤ priorityRetry then
    { channel := .ok (some channel)
      selectGroup := group
      context := { context.setSelectedAutoGroup group with autoGroupIndex := some (index + 1) }
      param := param.startOver }
  else
    { channel := .ok (some channel)
      selectGroup := group
      context := { context.setSelectedAutoGroup group with autoGroupIndex := some index }
      param := param }

/-- The loop through the groups: those that are left, the index of the first of them, the tier to
pick from, and the group that was last. -/
def selectAutoGroup (pick : String → Nat → Except String (Option Channel)) :
    List String → Nat → Nat → String → Context → RetryParam → Selection
  | [], _, _, selectGroup, context, param =>
    { channel := .ok none, selectGroup := selectGroup, context := context, param := param }
  | group :: groups, index, priorityRetry, _, context, param =>
    match pick group priorityRetry with
    | .error message =>
      { channel := .error (.failed message)
        selectGroup := group
        context := context
        param := param }
    | .ok none =>
      selectAutoGroup pick groups (index + 1) 0 group
        { context with autoGroupIndex := some (index + 1) } { param with retry := 0 }
    | .ok (some channel) => request.selected group index priorityRetry channel context param

def exclusionError (moment : Moment) (param : RetryParam) (selectGroup : String) : SelectError :=
  if param.excludeChannelIDs = [] ∧ request.breakerOpenChannelIDs moment = [] ∧
      request.relayLoopExcludeChannelIDs ≠ [] then
    .relayLoopNoAvailableChannel selectGroup request.modelName
  else .noAvailableChannelAfterExclusions selectGroup request.modelName

/-- The end of a selection: there is an error when no channel was found and some are excluded. -/
def concluded (moment : Moment) (unavailable : Option SelectError) (selection : Selection) :
    Selection :=
  match selection.channel with
  | .ok none =>
    if request.excludeChannelIDs moment selection.param = [] then
      match unavailable with
      | some error => { selection with channel := .error error }
      | none => selection
    else
      { selection with
        channel := .error
          (request.exclusionError moment selection.param selection.selectGroup) }
  | _ => selection

def selectAuto (moment : Moment) (context : Context) (param : RetryParam) : Selection :=
  if request.getContextAutoGroups = [] then
    { channel := .error (.failed ("auto groups has no usable groups for user group " ++
        request.userGroup))
      selectGroup := param.tokenGroup
      context := context
      param := param }
  else
    let start := context.autoGroupIndex.getD 0
    let exclude := request.excludeChannelIDs moment param
    request.concluded moment
      (some (.failed ("auto groups have no available channel for model " ++ request.modelName ++
        ": " ++ String.intercalate "," request.getContextAutoGroups)))
      (request.selectAutoGroup (request.pick moment exclude)
        (request.getContextAutoGroups.drop start) start param.retry param.tokenGroup context param)

def selectOne (moment : Moment) (context : Context) (param : RetryParam) : Selection :=
  let exclude := request.excludeChannelIDs moment param
  let found : Except SelectError (Option Channel) :=
    match request.pick moment exclude param.tokenGroup param.retry with
    | .error message => .error (.failed message)
    | .ok channel => .ok channel
  request.concluded moment none
    { channel := found, selectGroup := param.tokenGroup, context := context, param := param }

def cacheGetRandomSatisfiedChannel (moment : Moment) (context : Context) (param : RetryParam) :
    Selection :=
  if param.tokenGroup = "auto" then
    request.selectAuto moment (context.withTokenGroup param) param
  else request.selectOne moment (context.withTokenGroup param) param

end Request

/-! ## What a selection does -/

/-- The index that is stored does not decrease. -/
def Context.IndexLE (before after : Context) : Prop :=
  ∀ index ∈ before.autoGroupIndex, ∃ later ∈ after.autoGroupIndex, index ≤ later

theorem Context.IndexLE.of_eq {before after : Context}
    (same : after.autoGroupIndex = before.autoGroupIndex) : before.IndexLE after := by
  intro index stored
  rw [← same] at stored
  exact ⟨index, stored, Nat.le_refl index⟩

theorem Context.IndexLE.trans {first second third : Context} (front : first.IndexLE second)
    (back : second.IndexLE third) : first.IndexLE third := by
  intro index stored
  obtain ⟨middle, kept, le⟩ := front index stored
  obtain ⟨last, there, le'⟩ := back middle kept
  exact ⟨last, there, Nat.le_trans le le'⟩

/-- What a selection leaves as it is. -/
structure Selection.Keeps (context : Context) (param : RetryParam) (selection : Selection) :
    Prop where
  excludeChannelIDs : selection.param.excludeChannelIDs = param.excludeChannelIDs
  tokenGroup : selection.param.tokenGroup = param.tokenGroup
  token : context.tokenGroup ≠ "" → selection.context.tokenGroup = context.tokenGroup
  channelID : selection.context.channelID = context.channelID
  committed : selection.context.committed = context.committed
  index : context.IndexLE selection.context

/-- The index that is stored is at most one after that of the group that is selected. -/
def Request.Placed (request : Request) (context : Context) : Prop :=
  ∀ index ∈ context.autoGroupIndex, ∀ group ∈ context.autoGroup, ∀ position,
    request.getContextAutoGroups[position]? = some group → index ≤ position + 1

section Selections

variable {request : Request} {moment : Moment} {context : Context} {param : RetryParam}
  {channel : Channel}

theorem Context.withTokenGroup_keeps :
    (context.tokenGroup ≠ "" → (context.withTokenGroup param).tokenGroup = context.tokenGroup) ∧
      (context.withTokenGroup param).channelID = context.channelID ∧
      (context.withTokenGroup param).committed = context.committed ∧
      (context.withTokenGroup param).autoGroup = context.autoGroup ∧
      (context.withTokenGroup param).autoGroupIndex = context.autoGroupIndex := by
  rw [withTokenGroup]
  split
  · rename_i unset
    exact ⟨fun named => absurd unset.2 named, rfl, rfl, rfl, rfl⟩
  · exact ⟨fun _ => rfl, rfl, rfl, rfl, rfl⟩

theorem Context.setSelectedAutoGroup_keeps (group : String) :
    (context.setSelectedAutoGroup group).tokenGroup = context.tokenGroup ∧
      (context.setSelectedAutoGroup group).channelID = context.channelID ∧
      (context.setSelectedAutoGroup group).committed = context.committed := by
  rw [setSelectedAutoGroup]
  split
  · exact ⟨rfl, rfl, rfl⟩
  · exact ⟨rfl, rfl, rfl⟩

theorem Context.setSelectedAutoGroup_autoGroup {group : String} (named : group ≠ "") :
    (context.setSelectedAutoGroup group).autoGroup = some group := by
  rw [setSelectedAutoGroup, if_neg named]

namespace Request

variable {selection : Selection} {group selectGroup : String} {index priorityRetry : Nat}

theorem concluded_eq (unavailable : Option SelectError) (selection : Selection) :
    (request.concluded moment unavailable selection).context = selection.context ∧
      (request.concluded moment unavailable selection).param = selection.param := by
  obtain ⟨result, _, _, -⟩ := selection
  match result with
  | .error error => exact ⟨rfl, rfl⟩
  | .ok (some other) => exact ⟨rfl, rfl⟩
  | .ok none =>
    simp only [concluded]
    split
    · cases unavailable with
      | some | none => exact ⟨rfl, rfl⟩
    · exact ⟨rfl, rfl⟩

variable {unavailable : Option SelectError} {pick : String → Nat → Except String (Option Channel)}

theorem concluded_found
    (found : (request.concluded moment unavailable selection).channel = .ok (some channel)) :
    selection.channel = .ok (some channel) := by
  obtain ⟨result, selectGroup, left, leftParam⟩ := selection
  match result with
  | .error error => cases found
  | .ok (some other) => exact found
  | .ok none =>
    simp only [concluded] at found
    split at found
    · cases unavailable with
      | some | none => cases found
    · cases found

theorem keeps_refl (result : Except SelectError (Option Channel)) (selectGroup : String) :
    Selection.Keeps context param ⟨result, selectGroup, context, param⟩ :=
  ⟨rfl, rfl, fun _ => rfl, rfl, rfl, Context.IndexLE.of_eq rfl⟩

theorem selected_keeps (bound : ∀ stored ∈ context.autoGroupIndex, stored ≤ index) :
    (request.selected group index priorityRetry channel context param).Keeps context param := by
  obtain ⟨sameToken, sameChannel, sameCommitted⟩ :=
    @Context.setSelectedAutoGroup_keeps context group
  rw [selected]
  split
  · exact ⟨rfl, rfl, fun _ => sameToken, sameChannel, sameCommitted, fun stored there =>
      ⟨index + 1, rfl, Nat.le_succ_of_le (bound stored there)⟩⟩
  · exact ⟨rfl, rfl, fun _ => sameToken, sameChannel, sameCommitted, fun stored there =>
      ⟨index, rfl, bound stored there⟩⟩

theorem selectAutoGroup_keeps (groups : List String) (priorityRetry : Nat) (selectGroup : String)
    (bound : ∀ stored ∈ context.autoGroupIndex, stored ≤ index) :
    (request.selectAutoGroup pick groups index priorityRetry selectGroup context param).Keeps
      context param := by
  induction groups generalizing index priorityRetry selectGroup context param with
  | nil => exact keeps_refl _ _
  | cons group groups ih =>
    rw [selectAutoGroup]
    split
    · exact keeps_refl _ _
    · have next : ∀ stored ∈ (some (index + 1) : Option Nat), stored ≤ index + 1 := by
        rintro _ ⟨⟩
        exact Nat.le_refl _
      have later : (request.selectAutoGroup pick groups (index + 1) 0 group
          { context with autoGroupIndex := some (index + 1) } { param with retry := 0 }).Keeps
            { context with autoGroupIndex := some (index + 1) } { param with retry := 0 } :=
        ih 0 group next
      refine { later with index := ?_ }
      apply Context.IndexLE.trans _ later.index
      intro stored there
      exact ⟨index + 1, rfl, Nat.le_succ_of_le (bound stored there)⟩
    · exact selected_keeps bound

section

variable (here : request.getContextAutoGroups[index]? = some group)

include here

theorem position_unique {position : Nat}
    (there : request.getContextAutoGroups[position]? = some group) : position = index := by
  have nodup := (getUserAutoGroupWithPriority_nodup request.usableGroups request.preferredGroups
    request.autoGroups).1
  have inside : index < request.getContextAutoGroups.length := (List.getElem?_eq_some_iff.mp here).1
  exact ((getElem?_inj inside nodup).mp (here.trans there.symm)).symm

theorem ne_empty_of_getContextAutoGroups : group ≠ "" := by
  intro unnamed
  rw [unnamed] at here
  exact (getUserAutoGroupWithPriority_nodup request.usableGroups request.preferredGroups
    request.autoGroups).2 (mem_of_getElem? here)

theorem selected_placed :
    request.Placed (request.selected group index priorityRetry channel context param).context := by
  have chosen : ∀ {name : String}, name ∈ (context.setSelectedAutoGroup group).autoGroup →
      ∀ position, request.getContextAutoGroups[position]? = some name → position = index := by
    intro name member position there
    rw [Context.setSelectedAutoGroup_autoGroup (ne_empty_of_getContextAutoGroups here)] at member
    cases member
    exact position_unique here there
  rw [selected]
  split
  · rintro _ ⟨⟩ name member position there
    rw [chosen member position there]
  · rintro _ ⟨⟩ name member position there
    rw [chosen member position there]
    exact Nat.le_succ index

end

theorem selectAutoGroup_selected (groups : List String)
    (rest : groups = request.getContextAutoGroups.drop index)
    (found : (request.selectAutoGroup pick groups index priorityRetry selectGroup context
      param).channel = .ok (some channel)) :
    ∃ group position retry before beforeParam, pick group retry = .ok (some channel) ∧
      request.getContextAutoGroups[position]? = some group ∧
      request.selectAutoGroup pick groups index priorityRetry selectGroup context param =
        request.selected group position retry channel before beforeParam := by
  induction groups generalizing index priorityRetry selectGroup context param with
  | nil => cases found
  | cons group groups ih =>
    have here : request.getContextAutoGroups[index]? = some group := by
      rw [← head?_drop, ← rest, head?_cons]
    have following : groups = request.getContextAutoGroups.drop (index + 1) := by
      rw [← tail_drop, ← rest, tail_cons]
    cases picked : pick group priorityRetry with
    | error =>
      simp only [selectAutoGroup, picked] at found
      cases found
    | ok other =>
      cases other with
      | none =>
        simp only [selectAutoGroup, picked] at found ⊢
        exact ih following found
      | some other =>
        simp only [selectAutoGroup, picked] at found ⊢
        have same : other = channel := by
          rw [selected] at found
          split at found
          · cases found
            rfl
          · cases found
            rfl
        cases same
        exact ⟨group, index, priorityRetry, context, param, picked, here, rfl⟩

/-! ### The whole selection -/

theorem keeps_of_withTokenGroup (keeps : selection.Keeps (context.withTokenGroup param) param) :
    selection.Keeps context param := by
  obtain ⟨token, channelID, committed, -, index⟩ := @Context.withTokenGroup_keeps context param
  refine ⟨keeps.excludeChannelIDs, keeps.tokenGroup, fun named => ?_,
    keeps.channelID.trans channelID, keeps.committed.trans committed,
    (Context.IndexLE.of_eq index).trans keeps.index⟩
  have same := token named
  exact (keeps.token (same ▸ named)).trans same

theorem concluded_keeps (keeps : selection.Keeps context param) :
    (request.concluded moment unavailable selection).Keeps context param := by
  obtain ⟨sameContext, sameParam⟩ := @concluded_eq request moment unavailable selection
  exact ⟨sameParam ▸ keeps.excludeChannelIDs, sameParam ▸ keeps.tokenGroup,
    sameContext ▸ keeps.token, sameContext ▸ keeps.channelID, sameContext ▸ keeps.committed,
    sameContext ▸ keeps.index⟩

theorem cacheGetRandomSatisfiedChannel_keeps (request : Request) (moment : Moment)
    (context : Context) (param : RetryParam) :
    (request.cacheGetRandomSatisfiedChannel moment context param).Keeps context param := by
  rw [cacheGetRandomSatisfiedChannel]
  split
  · apply keeps_of_withTokenGroup
    rw [selectAuto]
    split
    · exact keeps_refl _ _
    apply concluded_keeps
    apply selectAutoGroup_keeps
    intro stored there
    rw [Option.mem_def.mp there]
    exact Nat.le_refl stored
  · apply keeps_of_withTokenGroup
    rw [selectOne]
    exact concluded_keeps (keeps_refl _ _)

/-- The group at an index is selected, and the next selection starts from it. -/
structure InGroup (request : Request) (group : String) (index : Nat) (context : Context) :
    Prop where
  position : request.getContextAutoGroups[index]? = some group
  group : context.autoGroup = some group
  start : context.autoGroupIndex.getD 0 = index

theorem selected_inGroup (off : request.crossGroupRetry = false)
    (here : request.getContextAutoGroups[index]? = some group) (priorityRetry : Nat) :
    request.InGroup group index
      (request.selected group index priorityRetry channel context param).context := by
  have stays : ¬(request.crossGroupRetry = true ∧ request.settings.retryTimes ≤ priorityRetry) :=
    fun both => Bool.false_ne_true (off.symm.trans both.1)
  rw [selected, if_neg stays]
  exact ⟨here, Context.setSelectedAutoGroup_autoGroup (ne_empty_of_getContextAutoGroups here), rfl⟩

section

variable (found : (request.cacheGetRandomSatisfiedChannel moment context param).channel =
  .ok (some channel))

include found

theorem cacheGetRandomSatisfiedChannel_auto (auto : param.tokenGroup = "auto") :
    ∃ selection, selection = request.selectAutoGroup
        (request.pick moment (request.excludeChannelIDs moment param))
        (request.getContextAutoGroups.drop (context.autoGroupIndex.getD 0))
        (context.autoGroupIndex.getD 0) param.retry param.tokenGroup
        (context.withTokenGroup param) param ∧ selection.channel = .ok (some channel) ∧
      (request.cacheGetRandomSatisfiedChannel moment context param).context =
        selection.context := by
  rw [cacheGetRandomSatisfiedChannel, if_pos auto, selectAuto] at found ⊢
  by_cases empty : request.getContextAutoGroups = []
  · rw [if_pos empty] at found
    cases found
  · obtain ⟨-, -, -, -, sameIndex⟩ := @Context.withTokenGroup_keeps context param
    rw [if_neg empty, sameIndex] at found ⊢
    exact ⟨_, rfl, concluded_found found, (concluded_eq _ _).1⟩

theorem cacheGetRandomSatisfiedChannel_found :
    ∃ group retry, request.pick moment (request.excludeChannelIDs moment param) group retry =
      .ok (some channel) := by
  by_cases auto : param.tokenGroup = "auto"
  · obtain ⟨_, rfl, foundThere, -⟩ := cacheGetRandomSatisfiedChannel_auto found auto
    obtain ⟨group, -, retry, -, -, picked, -⟩ := selectAutoGroup_selected _ rfl foundThere
    exact ⟨group, retry, picked⟩
  · rw [cacheGetRandomSatisfiedChannel, if_neg auto, selectOne] at found
    have picked := concluded_found found
    cases result : request.pick moment (request.excludeChannelIDs moment param) param.tokenGroup
        param.retry with
    | error =>
      simp only [result] at picked
      cases picked
    | ok =>
      simp only [result] at picked
      cases picked
      exact ⟨param.tokenGroup, param.retry, result⟩

/-- A selection that finds a channel stores the index of its group or the next one. -/
theorem cacheGetRandomSatisfiedChannel_placed (placed : request.Placed context) :
    request.Placed (request.cacheGetRandomSatisfiedChannel moment context param).context := by
  by_cases auto : param.tokenGroup = "auto"
  · obtain ⟨_, rfl, foundThere, same⟩ := cacheGetRandomSatisfiedChannel_auto found auto
    obtain ⟨_, _, _, _, _, -, here, selected⟩ :=
      selectAutoGroup_selected _ rfl foundThere
    rw [same, selected]
    exact selected_placed here
  · obtain ⟨-, -, -, sameGroup, sameIndex⟩ := @Context.withTokenGroup_keeps context param
    rw [cacheGetRandomSatisfiedChannel, if_neg auto, selectOne, (concluded_eq _ _).1, Placed,
      sameGroup, sameIndex]
    exact placed

/-! ### Without retries in other groups -/

variable (off : request.crossGroupRetry = false) (auto : param.tokenGroup = "auto")

include off auto

theorem cacheGetRandomSatisfiedChannel_stays (inGroup : request.InGroup group index context)
    (there : request.pick moment (request.excludeChannelIDs moment param) group param.retry ≠
      .ok none) :
    request.InGroup group index
      (request.cacheGetRandomSatisfiedChannel moment context param).context := by
  obtain ⟨_, rfl, foundThere, same⟩ := cacheGetRandomSatisfiedChannel_auto found auto
  have rest : request.getContextAutoGroups.drop index =
      group :: request.getContextAutoGroups.drop (index + 1) := by
    obtain ⟨inside, here⟩ := List.getElem?_eq_some_iff.mp inGroup.position
    rw [drop_eq_getElem_cons inside, here]
  rw [same]
  rw [inGroup.start, rest] at foundThere ⊢
  cases picked : request.pick moment (request.excludeChannelIDs moment param) group
      param.retry with
  | error =>
    simp only [selectAutoGroup, picked] at foundThere
    cases foundThere
  | ok other =>
    cases other with
    | none => exact absurd picked there
    | some =>
      simp only [selectAutoGroup, picked]
      exact selected_inGroup off inGroup.position param.retry

end

end Request

section

variable (found :
  (request.cacheGetRandomSatisfiedChannel moment context param).channel = .ok (some channel))

include found

theorem selected_notMem :
    channel.id ∉ param.excludeChannelIDs ∧ ¬request.Cooling moment channel.id := by
  obtain ⟨_, _, picked⟩ := Request.cacheGetRandomSatisfiedChannel_found found
  have kept := (Moment.pick_some picked).2
  rw [Request.excludeChannelIDs, mem_append, mem_append, not_or, not_or] at kept
  exact ⟨kept.1.1, fun cooling => kept.2 (mem_breakerOpenChannelIDs cooling)⟩

theorem selected_holds : moment.Holds channel := by
  obtain ⟨_, _, picked⟩ := Request.cacheGetRandomSatisfiedChannel_found found
  exact (Moment.pick_some picked).1

end

end Selections

end StuHelper.Routing
