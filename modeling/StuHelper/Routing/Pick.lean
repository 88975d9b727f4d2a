import StuHelper.Lib.Draw
import StuHelper.Lib.Run
import StuHelper.Routing.Tables

/-!
# Picking a channel

A channel for a group, a model and a request path is picked from the memory cache, or, when that is
off, with queries to the database.  The cache drops the excluded channels and those that do not
serve the path, and picks from a tier of priorities by weight.  The database picks first, and
starts again without the channel when that does not serve the path.
-/

namespace StuHelper.Routing

open Lib List

/-! ## From the cache -/

def filterExcludedChannelIDs (channels exclude : List Int) : List Int :=
  channels.filter (· ∉ exclude)

/-- The draw among the channels of a tier. -/
def drawChannel (targets : List Channel) (random : Nat) : Option Channel :=
  let sumWeight := (targets.map Channel.getWeight).sum
  let smoothingAdjustment := if sumWeight = 0 then 100 else 0
  let smoothingFactor := if sumWeight ≠ 0 ∧ sumWeight / targets.length < 10 then 100 else 1
  let totalWeight := (if sumWeight = 0 then targets.length * 100 else sumWeight) * smoothingFactor
  draw (· < 0) (fun channel => channel.getWeight * smoothingFactor + smoothingAdjustment) targets
    ((random % totalWeight : Nat) : Int)

namespace Cache

variable (cache : Cache)

def filterChannelsForRequestPath (channels : List Int) (requestPath : String) : List Int :=
  if requestPath = "" then channels
  else channels.filter fun id => (cache.byId id).all (Channel.supportsRequestPath · requestPath)

/-- A channel that is listed. -/
def lookup (id : Int) : Except String Channel :=
  match cache.byId id with
  | some channel => .ok channel
  | none => .error ("数据库一致性错误，渠道# " ++ toString id ++ " 不存在，请联系管理员修复")

/-- The channels that are listed, or the error of the first that is missing. -/
def lookupAll : List Int → Except String (List Channel)
  | [] => .ok []
  | id :: ids =>
    match cache.lookup id, lookupAll ids with
    | .error message, _ => .error message
    | .ok _, .error message => .error message
    | .ok channel, .ok channels => .ok (channel :: channels)

/-- The ids for an exact or a normalized model name. -/
def available (group model : String) (exclude : List Int) (requestPath : String) : List Int :=
  cache.filterChannelsForRequestPath (filterExcludedChannelIDs (cache.lists group model) exclude)
    requestPath

/-- The choice among several channels. -/
def choose (group model : String) (retry : Nat) (exclude : List Int) (channels : List Channel)
    (random : Nat) : Except String (Option Channel) :=
  let priorities := tiers (channels.map Channel.getPriority)
  let clamped := if retry ≥ priorities.length then priorities.length - 1 else retry
  let target := (priorities[if exclude ≠ [] then 0 else clamped]?).getD 0
  let targets := channels.filter fun channel => channel.getPriority = target
  if targets = [] then
    .error ("no channel found, group: " ++ group ++ ", model: " ++ model ++ ", priority: " ++
      toString target)
  else
    match drawChannel targets random with
    | some channel => .ok (some channel)
    | none => .error "channel not found"

/-- `GetRandomSatisfiedChannelExcludingForPath` with the memory cache. -/
def getRandomSatisfiedChannelExcludingForPath (group model : String) (retry : Nat)
    (exclude : List Int) (requestPath : String) (random : Nat) : Except String (Option Channel) :=
  let exact_ := cache.available group model exclude requestPath
  let channels := if exact_ = [] then
      cache.available group (formatMatchingModelName model) exclude requestPath
    else exact_
  match channels with
  | [] => .ok none
  | [id] => (cache.lookup id).map some
  | ids =>
    match cache.lookupAll ids with
    | .error message => .error message
    | .ok found => choose group model retry exclude found random

end Cache

/-! ## From the database -/

def routableModelCandidates (model : String) : List String :=
  let normalized := formatMatchingModelName model
  if normalized ≠ "" ∧ normalized ≠ model then [model, normalized] else [model]

def withExcludedChannelID (exclude : List Int) (channelID : Int) : List Int :=
  if channelID ≤ 0 then exclude else channelID :: exclude

def drawAbility (abilities : List Ability) (random : Nat) : Option Ability :=
  let weightSum := (abilities.map fun ability => ability.weight + 10).sum
  draw (· ≤ 0) (fun ability => ability.weight + 10) abilities ((random % weightSum : Nat) : Int)

namespace Database

variable (db : Database)

/-- The enabled abilities of a group and a model without those that are excluded. -/
def abilitiesOf (group model : String) (exclude : List Int) : List Ability :=
  db.abilities.filter fun ability => ability.group = group ∧ ability.model = model ∧
    ability.enabled ∧ ability.channelId ∉ exclude

def getPriority (group model : String) (retry : Nat) (exclude : List Int) : Option Int :=
  let priorities := tiers ((db.abilitiesOf group model exclude).map Ability.priority)
  if retry ≥ priorities.length then priorities.getLast? else priorities[retry]?

/-- `getChannelQuery`, with the rows in the order of their weights. -/
def getChannelQuery (group model : String) (retry : Nat) (exclude : List Int) : List Ability :=
  let priorityRetry := if exclude ≠ [] then 0 else retry
  match db.getPriority group model priorityRetry exclude with
  | none => []
  | some priority =>
    ((db.abilitiesOf group model exclude).filter fun ability =>
      ability.priority = priority).insertionSort fun left right => right.weight ≤ left.weight

/-- The abilities of the first candidate that has some. -/
def candidateAbilities (group model : String) (retry : Nat) (exclude : List Int) : List Ability :=
  ((routableModelCandidates model).map fun candidate =>
    db.getChannelQuery group candidate retry exclude).find? (· ≠ []) |>.getD []

def drawnChannel (group model : String) (retry : Nat) (exclude : List Int) (random : Nat) :
    Option (Option Channel) :=
  let abilities := db.candidateAbilities group model retry exclude
  if abilities = [] then none
  else some ((drawAbility abilities random).bind fun ability =>
    findChannel db.channels ability.channelId)

/-- What a call does with the channel that it has drawn, by the channels that are excluded and the
number of calls so far. -/
def afterDraw (requestPath : String) (state : List Int × Nat) :
    Option (Option Channel) → Round (List Int × Nat) (Except String (Option Channel))
  | none => .stop (.ok none)
  | some none => .stop (.error "record not found")
  | some (some channel) =>
    if channel.serves requestPath then .stop (.ok (some channel))
    else .again (withExcludedChannelID state.1 channel.id, state.2 + 1)

/-- One call of `GetChannelExcludingForPath`. -/
def pickRound (group model : String) (retry : Nat) (requestPath : String) (random : Nat → Nat)
    (state : List Int × Nat) : Round (List Int × Nat) (Except String (Option Channel)) :=
  afterDraw requestPath state (db.drawnChannel group model retry state.1 (random state.2))

/-- `GetChannelExcludingForPath`, with a bound on the calls; each has its own random number. -/
def getChannelExcludingForPath (group model : String) (retry : Nat) (exclude : List Int)
    (requestPath : String) (random : Nat → Nat) (rounds : Nat) :
    Option (Except String (Option Channel)) :=
  runLoop (db.pickRound group model retry requestPath random) rounds (exclude, 0)

end Database

/-! ## What is picked -/

section Picked

variable {group model : String} {retry : Nat} {exclude : List Int} {requestPath : String}

namespace Cache

variable {cache : Cache}
variable {channel : Channel} {id : Int}

theorem lookup_ok (found : cache.lookup id = .ok channel) :
    cache.byId id = some channel := by
  rw [lookup] at found
  cases known : cache.byId id with
  | none =>
    rw [known] at found
    cases found
  | some =>
    rw [known] at found
    cases found
    rfl

variable {channels : List Channel} {random : Nat}

theorem mem_lookupAll {ids : List Int} (found : cache.lookupAll ids = .ok channels)
    (member : channel ∈ channels) :
    ∃ id ∈ ids, cache.byId id = some channel := by
  induction ids generalizing channels with
  | nil =>
    cases found
    cases member
  | cons id ids ih =>
    rw [lookupAll] at found
    split at found
    · cases found
    · cases found
    rename_i first rest here there
    cases found
    cases member with
    | head => exact ⟨id, mem_cons_self, lookup_ok here⟩
    | tail _ later =>
      obtain ⟨other, listed, known⟩ := ih there later
      exact ⟨other, mem_cons_of_mem _ listed, known⟩

theorem mem_of_choose
    (chosen : choose group model retry exclude channels random = .ok (some channel)) :
    channel ∈ channels := by
  unfold choose at chosen
  extract_lets _ _ target targets at chosen
  clear_value target
  split at chosen
  · cases chosen
  split at chosen
  · rename_i drawn
    cases chosen
    exact (mem_filter.mp (mem_of_draw drawn)).1
  · cases chosen

theorem mem_available {name : String}
    (member : id ∈ cache.available group name exclude requestPath) :
    id ∈ cache.lists group name ∧ id ∉ exclude := by
  rw [available, filterChannelsForRequestPath] at member
  have kept : id ∈ filterExcludedChannelIDs (cache.lists group name) exclude := by
    split at member
    · exact member
    · exact (mem_filter.mp member).1
  rw [filterExcludedChannelIDs, mem_filter, decide_eq_true_iff] at kept
  exact kept

theorem pick_some
    (picked : cache.getRandomSatisfiedChannelExcludingForPath group model retry exclude requestPath
      random = .ok (some channel)) :
    (∃ name, channel.id ∈ cache.lists group name) ∧ cache.byId channel.id = some channel ∧
      channel.id ∉ exclude := by
  simp only [getRandomSatisfiedChannelExcludingForPath] at picked
  obtain ⟨name, available⟩ : ∃ name,
      (if cache.available group model exclude requestPath = [] then
        cache.available group (formatMatchingModelName model) exclude requestPath
      else cache.available group model exclude requestPath) =
        cache.available group name exclude requestPath := by
    split
    · exact ⟨_, rfl⟩
    · exact ⟨_, rfl⟩
  have listed : ∀ id ∈ cache.available group name exclude requestPath,
      cache.byId id = some channel → (∃ name, channel.id ∈ cache.lists group name) ∧
        cache.byId channel.id = some channel ∧ channel.id ∉ exclude := by
    intro id member known
    cases cache.keyed known
    exact ⟨⟨name, (mem_available member).1⟩, known, (mem_available member).2⟩
  rw [available] at picked
  generalize cache.available group name exclude requestPath = ids at picked listed
  match ids with
  | [] => cases picked
  | [id] =>
    cases found : cache.lookup id with
    | error =>
      simp only [found] at picked
      cases picked
    | ok =>
      simp only [found] at picked
      cases picked
      exact listed id mem_cons_self (lookup_ok found)
  | id :: next :: rest =>
    cases found : cache.lookupAll (id :: next :: rest) with
    | error =>
      simp only [found] at picked
      cases picked
    | ok =>
      simp only [found] at picked
      obtain ⟨other, member, known⟩ := mem_lookupAll found (mem_of_choose picked)
      exact listed other member known

end Cache

namespace Database

variable {ability : Ability} {channel : Channel} {state next : List Int × Nat}

variable {db : Database} {random : Nat → Nat}

theorem mem_abilitiesOf :
    ability ∈ db.abilitiesOf group model exclude ↔
      ability ∈ db.abilities ∧ ability.group = group ∧ ability.model = model ∧
        ability.enabled = true ∧ ability.channelId ∉ exclude := by
  rw [abilitiesOf, mem_filter, decide_eq_true_iff]

theorem notMem_of_candidateAbilities
    (member : ability ∈ db.candidateAbilities group model retry exclude) :
    ability.channelId ∉ exclude := by
  rw [candidateAbilities] at member
  cases found : ((routableModelCandidates model).map fun candidate =>
      db.getChannelQuery group candidate retry exclude).find? (· ≠ []) with
  | none =>
    rw [found] at member
    cases member
  | some =>
    rw [found] at member
    obtain ⟨_, -, same⟩ := mem_map.mp (mem_of_find?_eq_some found)
    rw [Option.getD_some, ← same] at member
    simp only [getChannelQuery] at member
    split at member
    · cases member
    · rw [mem_insertionSort] at member
      exact (mem_abilitiesOf.mp (mem_filter.mp member).1).2.2.2.2

variable {number : Nat} {drawn : Option (Option Channel)}

theorem drawnChannel_some
    (drawn : db.drawnChannel group model retry exclude number = some (some channel)) :
    channel ∈ db.channels ∧ channel.id ∉ exclude := by
  simp only [drawnChannel] at drawn
  split at drawn
  · cases drawn
  obtain ⟨ability, picked, found⟩ := Option.bind_eq_some_iff.mp (Option.some.inj drawn)
  refine ⟨mem_of_find?_eq_some found, ?_⟩
  rw [findChannel_id found]
  rw [drawAbility] at picked
  exact notMem_of_candidateAbilities (mem_of_draw picked)

theorem afterDraw_stop (stop : afterDraw requestPath state drawn = .stop (.ok (some channel))) :
    drawn = some (some channel) := by
  match drawn with
  | none | some none => cases stop
  | some (some channel) =>
    rw [afterDraw] at stop
    split at stop
    · cases stop
      rfl
    · cases stop

section

variable (again : db.pickRound group model retry requestPath random state = .again next)

include again

/-- A call goes on without a channel that does not serve the path. -/
theorem pickRound_again :
    ∃ channel ∈ db.channels, channel.id ∉ state.1 ∧ channel.serves requestPath = false ∧
      next.1 = channel.id :: state.1 := by
  rw [pickRound] at again
  match drawn : db.drawnChannel group model retry state.1 (random state.2) with
  | none | some none =>
    rw [drawn] at again
    cases again
  | some (some channel) =>
    rw [drawn, afterDraw] at again
    split at again
    · cases again
    rename_i unfit
    cases again
    obtain ⟨inTable, kept⟩ := drawnChannel_some drawn
    refine ⟨channel, inTable, kept, Bool.eq_false_iff.mpr unfit, ?_⟩
    exact if_neg (Int.not_le.mpr (db.positive channel inTable))

theorem pickRound_remaining :
    remaining (db.channels.map Channel.id) next.1 <
      remaining (db.channels.map Channel.id) state.1 := by
  obtain ⟨channel, inTable, kept, -, excluded⟩ := pickRound_again again
  have listed : channel.id ∈ db.channels.map Channel.id := mem_map_of_mem inTable
  rw [excluded]
  exact remaining_cons_lt listed kept

end

theorem pick_some {rounds : Nat}
    (picked : db.getChannelExcludingForPath group model retry exclude requestPath random rounds =
      some (.ok (some channel))) : channel ∈ db.channels ∧ channel.id ∉ exclude := by
  rw [getChannelExcludingForPath] at picked
  obtain ⟨_, wider, stop⟩ := @runLoop_stopped _ _
    (db.pickRound group model retry requestPath random) (fun state => exclude ⊆ state.1)
    (fun state next inv again => by
      obtain ⟨_, -, -, -, excluded⟩ := pickRound_again again
      rw [excluded]
      exact subset_cons_of_subset _ inv) _ _ _ (List.Subset.refl _) picked
  obtain ⟨inTable, kept⟩ := drawnChannel_some (afterDraw_stop stop)
  exact ⟨inTable, fun excluded => kept (wider excluded)⟩

end Database

end Picked

end StuHelper.Routing
