import StuHelper.Routing.Pick

/-!
# Channels that are disabled

`UpdateChannelStatus` takes a channel out of the lists of the cache and then writes its status to
the database.  `InitChannelCache` reads the channels and later replaces the cache.  A refresh that
has read the channels before a channel was disabled puts it back when it replaces the cache after
that.  And only the first entry of a channel in a list is taken out, while a channel whose groups
repeat a name is listed more than once.
-/

namespace StuHelper.Routing

open Lib List

/-- `CacheUpdateChannelStatus`. -/
def Cache.updateChannelStatus (cache : Cache) (id status : Int) : Cache where
  lists :=
    if status ≠ channelStatusEnabled then fun group model => (cache.lists group model).erase id
    else cache.lists
  byId := fun other => (cache.byId other).map fun channel =>
    if other = id then { channel with status := status } else channel
  keyed := by
    intro other channel found
    obtain ⟨_, known, rfl⟩ := Option.map_eq_some_iff.mp found
    have same := cache.keyed known
    split
    · exact same
    · exact same

/-- The status of a row is written. -/
def saveStatus (channels : List Channel) (id status : Int) : List Channel :=
  channels.map fun channel => if channel.id = id then { channel with status := status } else channel

/-- The channels in the database and in the cache, what the refreshes have read, and the call that
holds `channelStatusLock`. -/
structure Site where
  channels : List Channel
  cache : Cache
  snapshots : Nat → Option (List Channel) := fun _ => none
  call : Option (Int × Int) := none

/-- The steps of the refreshes and the calls. -/
inductive CacheEvent where
  /-- A refresh reads the channels. -/
  | read (refresh : Nat)
  /-- A refresh replaces the cache. -/
  | publish (refresh : Nat)
  /-- `UpdateChannelStatus` looks at the cache and updates it. -/
  | updateCache (id status : Int)
  /-- The call that holds the lock updates the database and returns. -/
  | updateDatabase
  deriving DecidableEq, Repr

namespace Site

variable (site : Site)

/-- The first part of `UpdateChannelStatus` for a channel with one key. -/
def updateCache (id status : Int) : Site :=
  match site.call, site.cache.byId id with
  | none, some channel =>
    if channel.status = status then site
    else { site with cache := site.cache.updateChannelStatus id status, call := some (id, status) }
  | _, _ => site

/-- The second part. -/
def updateDatabase : Site :=
  match site.call with
  | none => site
  | some (id, status) =>
    match findChannel site.channels id with
    | none => { site with call := none }
    | some channel =>
      if channel.status = status then { site with call := none }
      else { site with channels := saveStatus site.channels id status, call := none }

def step : CacheEvent → Site
  | .read refresh =>
    { site with snapshots := Function.update site.snapshots refresh (some site.channels) }
  | .publish refresh =>
    match site.snapshots refresh with
    | none => site
    | some channels =>
      { site with
        cache := initChannelCache channels
        snapshots := Function.update site.snapshots refresh none }
  | .updateCache id status => site.updateCache id status
  | .updateDatabase => site.updateDatabase

end Site

/-- A site with a cache that has just been built. -/
def Site.start (channels : List Channel) : Site :=
  { channels := channels, cache := initChannelCache channels }

def cacheAfter (channels : List Channel) (events : List CacheEvent) : Cache :=
  (run Site.step (Site.start channels) events).cache

/-- Every refresh that replaces the cache has read the channels before, after the start. -/
def Fresh : List Nat → List CacheEvent → Prop
  | _, [] => True
  | seen, .read refresh :: events => Fresh (refresh :: seen) events
  | seen, .publish refresh :: events => refresh ∈ seen ∧ Fresh seen events
  | seen, .updateCache _ _ :: events => Fresh seen events
  | seen, .updateDatabase :: events => Fresh seen events

/-- The step of another party while a call holds the lock, other than the replacement of the
cache. -/
def CacheEvent.quiet : CacheEvent → Bool
  | .read _ => true
  | .publish _ => false
  | .updateCache _ _ => true
  | .updateDatabase => false

/-! ## One entry in a list -/

/-- The rows have distinct ids, and the groups of a channel are distinct. -/
structure Tidy (id : Int) (channels : List Channel) : Prop where
  nodup : (channels.map Channel.id).Nodup
  groups : ∀ channel ∈ channels, channel.id = id → channel.getGroups.Nodup

section Once

variable {id status : Int} {channels : List Channel}

theorem Tidy.saveStatus {other : Int} (tidy : Tidy id channels) :
    Tidy id (saveStatus channels other status) := by
  constructor
  · have ids : (Routing.saveStatus channels other status).map Channel.id =
        channels.map Channel.id := by
      rw [Routing.saveStatus, map_map]
      apply map_congr_left
      intro channel _
      rw [Function.comp_apply]
      split <;> rfl
    rw [ids]
    exact tidy.nodup
  · intro channel member same
    obtain ⟨before, there, rfl⟩ := mem_map.mp member
    split at same
    · rw [if_pos ‹_›]
      exact tidy.groups before there same
    · rw [if_neg ‹_›]
      exact tidy.groups before there same

theorem count_listed (tidy : Tidy id channels) (group model : String) :
    ((channels.filter Channel.isEnabled).flatMap fun channel => replicate
      (channel.getGroups.count group * channel.getRoutableModels.count model) channel.id).count id ≤
        1 := by
  induction channels with
  | nil => exact Nat.zero_le 1
  | cons channel channels ih =>
    have rest : Tidy id channels :=
      ⟨(nodup_cons.mp tidy.nodup).2,
        fun other member => tidy.groups other (mem_cons_of_mem _ member)⟩
    rw [filter_cons]
    split
    · rw [flatMap_cons, count_append]
      by_cases same : channel.id = id
      · -- the id is not in the rest of the table
        have absent : id ∉ (channels.filter Channel.isEnabled).flatMap fun channel =>
            replicate (channel.getGroups.count group *
              channel.getRoutableModels.count model) channel.id := by
          intro member
          obtain ⟨other, there, listed⟩ := mem_flatMap.mp member
          have elsewhere : other.id ∈ channels.map Channel.id :=
            mem_map_of_mem (mem_of_mem_filter there)
          rw [← (mem_replicate.mp listed).2, ← same] at elsewhere
          exact (nodup_cons.mp tidy.nodup).1 elsewhere
        rw [count_eq_zero_of_not_mem absent, Nat.add_zero, count_replicate]
        split
        · exact Nat.mul_le_mul
            (nodup_iff_count_le_one.mp (tidy.groups channel mem_cons_self same) group)
            (nodup_iff_count_le_one.mp channel.nodup_getRoutableModels model)
        · exact Nat.zero_le 1
      · rw [count_replicate, if_neg (by simpa using same), Nat.zero_add]
        exact ih rest
    · exact ih rest

/-- A channel is listed at most once. -/
def Once (id : Int) (cache : Cache) : Prop :=
  ∀ group model, (cache.lists group model).count id ≤ 1

theorem once_initChannelCache (tidy : Tidy id channels) : Once id (initChannelCache channels) := by
  intro group model
  have sorted := perm_insertionSort
    (fun left right => (findChannel channels right).elim 0 Channel.getPriority ≤
      (findChannel channels left).elim 0 Channel.getPriority)
    ((channels.filter Channel.isEnabled).foldl listChannel (fun _ _ => []) group model)
  rw [initChannelCache, sorted.count_eq, foldl_listChannel_apply, nil_append]
  exact count_listed tidy group model

theorem Once.updateChannelStatus {cache : Cache} {other : Int} (once : Once id cache) :
    Once id (cache.updateChannelStatus other status) := by
  intro group model
  rw [Cache.updateChannelStatus]
  dsimp only
  split
  · exact Nat.le_trans ((erase_sublist).count_le id) (once group model)
  · exact once group model

end Once

section Steps

variable {id status : Int} {site : Site}
variable {channels : List Channel}

variable {other refresh : Nat} {cache : Cache} {events : List CacheEvent}

theorem Site.read_snapshots (found : (site.step (.read refresh)).snapshots other = some channels) :
    channels = site.channels ∨ (other ≠ refresh ∧ site.snapshots other = some channels) := by
  have updated : Function.update site.snapshots refresh (some site.channels) other =
      some channels := found
  by_cases same : other = refresh
  · rw [same, Function.update_self] at updated
    exact Or.inl (Option.some.inj updated).symm
  · rw [Function.update_of_ne same] at updated
    exact Or.inr ⟨same, updated⟩

theorem Site.publish_cases (site : Site) (refresh : Nat) :
    site.step (.publish refresh) = site ∨ ∃ channels, site.snapshots refresh = some channels ∧
        site.step (.publish refresh) =
          { site with cache := initChannelCache channels
                      snapshots := Function.update site.snapshots refresh none } := by
  rw [step]
  cases site.snapshots refresh with
  | none => exact Or.inl rfl
  | some channels => exact Or.inr ⟨channels, rfl, rfl⟩

theorem Site.published_snapshots
    (found : Function.update site.snapshots refresh none other = some channels) :
    site.snapshots other = some channels := by
  by_cases same : other = refresh
  · rw [same, Function.update_self] at found
    cases found
  · rw [Function.update_of_ne same] at found
    exact found

theorem Site.updateCache_cases (site : Site) (id status : Int) :
    site.updateCache id status = site ∨
      (site.call = none ∧ site.updateCache id status =
        { site with cache := site.cache.updateChannelStatus id status
                    call := some (id, status) }) := by
  rw [updateCache]
  split
  · rename_i free found
    split
    · exact Or.inl rfl
    · exact Or.inr ⟨free, rfl⟩
  · exact Or.inl rfl

theorem Site.updateDatabase_cases (site : Site) :
    (site.call = none ∧ site.updateDatabase = site) ∨ ∃ id status, site.call = some (id, status) ∧
        ((site.updateDatabase = { site with call := none } ∧
            ∀ channel, findChannel site.channels id = some channel → channel.status = status) ∨
          site.updateDatabase =
            { site with channels := saveStatus site.channels id status, call := none }) := by
  rw [updateDatabase]
  cases calling : site.call with
  | none => exact Or.inl ⟨rfl, rfl⟩
  | some call =>
    obtain ⟨id, status⟩ := call
    refine Or.inr ⟨id, status, rfl, ?_⟩
    dsimp only
    cases found : findChannel site.channels id with
    | none => exact Or.inl ⟨rfl, nofun⟩
    | some channel =>
      dsimp only
      split
      · rename_i same
        refine Or.inl ⟨rfl, ?_⟩
        rintro _ ⟨⟩
        exact same
      · exact Or.inr rfl

/-- The channel is listed at most once, now and after every refresh. -/
structure Site.Tidy (id : Int) (site : Site) : Prop where
  channels : Routing.Tidy id site.channels
  snapshots : ∀ refresh channels, site.snapshots refresh = some channels → Routing.Tidy id channels
  once : Once id site.cache

theorem Site.Tidy.step (tidy : site.Tidy id) (event : CacheEvent) : (site.step event).Tidy id := by
  cases event with
  | read =>
    refine ⟨tidy.channels, fun other channels found => ?_, tidy.once⟩
    cases read_snapshots found with
    | inl now => exact now ▸ tidy.channels
    | inr earlier => exact tidy.snapshots other channels earlier.2
  | publish refresh =>
    cases site.publish_cases refresh with
    | inl same =>
      rw [same]
      exact tidy
    | inr published =>
      obtain ⟨channels, found, published⟩ := published
      rw [published]
      exact ⟨tidy.channels,
        fun other read known => tidy.snapshots other read (published_snapshots known),
        once_initChannelCache (tidy.snapshots refresh channels found)⟩
  | updateCache other status =>
    rw [Site.step]
    cases site.updateCache_cases other status with
    | inl same =>
      rw [same]
      exact tidy
    | inr updated =>
      rw [updated.2]
      exact ⟨tidy.channels, tidy.snapshots, tidy.once.updateChannelStatus⟩
  | updateDatabase =>
    rw [Site.step]
    rcases site.updateDatabase_cases with ⟨-, same⟩ | ⟨other, status, -, ⟨same, -⟩ | saved⟩
    · rw [same]
      exact tidy
    · rw [same]
      exact { tidy with }
    · rw [saved]
      exact ⟨tidy.channels.saveStatus, tidy.snapshots, tidy.once⟩

/-! ## A channel that is off -/

def Idle (id : Int) (channels : List Channel) : Prop :=
  ∀ channel ∈ channels, channel.id = id → channel.isEnabled = false

/-- The channel is not listed. -/
def Gone (id : Int) (cache : Cache) : Prop := ∀ group model, id ∉ cache.lists group model

theorem Idle.gone (idle : Idle id channels) : Gone id (initChannelCache channels) := by
  intro group model member
  obtain ⟨channel, there, enabled, -, -, same⟩ := mem_lists.mp member
  rw [idle channel there same] at enabled
  cases enabled

theorem Gone.updateChannelStatus (gone : Gone id cache) (other status : Int) :
    Gone id (cache.updateChannelStatus other status) := by
  intro group model
  rw [Cache.updateChannelStatus]
  dsimp only
  split
  · exact fun member => gone group model (mem_of_mem_erase member)
  · exact gone group model

theorem Once.gone (once : Once id cache) (disables : status ≠ channelStatusEnabled) :
    Gone id (cache.updateChannelStatus id status) := by
  intro group model
  rw [Cache.updateChannelStatus, if_pos disables, ← count_eq_zero, count_erase_self]
  exact Nat.sub_eq_zero_of_le (once group model)

theorem isEnabled_eq_false {channel : Channel} (disabled : channel.status ≠ channelStatusEnabled) :
    channel.isEnabled = false := decide_eq_false disabled

theorem Idle.saveStatus {other : Int} (idle : other = id ∨ Idle id channels)
    (disables : other = id → status ≠ channelStatusEnabled) :
    Idle id (saveStatus channels other status) := by
  intro channel member same
  obtain ⟨before, there, rfl⟩ := mem_map.mp member
  by_cases written : before.id = other
  · rw [if_pos written] at same ⊢
    exact isEnabled_eq_false (disables (written.symm.trans same))
  · rw [if_neg written] at same ⊢
    exact idle.resolve_left (fun own => written (same.trans own.symm)) before there same

/-- The channel is not listed, and no refresh that has read the channels since will list it. -/
structure Site.Off (id : Int) (seen : List Nat) (site : Site) : Prop where
  gone : Gone id site.cache
  idle : Idle id site.channels
  snapshots : ∀ refresh ∈ seen, ∀ channels, site.snapshots refresh = some channels →
    Idle id channels
  call : ∀ status, site.call = some (id, status) → status ≠ channelStatusEnabled

theorem Site.Off.run {seen : List Nat} (off : site.Off id seen) (fresh : Fresh seen events)
    (disables : ∀ status, .updateCache id status ∈ events → status ≠ channelStatusEnabled) :
    Gone id (run step site events).cache := by
  induction events generalizing site seen with
  | nil => exact off.gone
  | cons event events ih =>
    have rest : ∀ status, .updateCache id status ∈ events → status ≠ channelStatusEnabled :=
      fun status member => disables status (mem_cons_of_mem _ member)
    rw [run_cons]
    cases event with
    | read =>
      refine ih { off with snapshots := ?_ } fresh rest
      intro other member channels found
      cases read_snapshots found with
      | inl now => exact now ▸ off.idle
      | inr earlier =>
        exact off.snapshots other (mem_of_ne_of_mem earlier.1 member) channels earlier.2
    | publish refresh =>
      refine ih ?_ fresh.2 rest
      cases site.publish_cases refresh with
      | inl same =>
        rw [same]
        exact off
      | inr published =>
        obtain ⟨channels, found, published⟩ := published
        rw [published]
        exact ⟨(off.snapshots refresh fresh.1 channels found).gone, off.idle,
          fun other member read known =>
            off.snapshots other member read (published_snapshots known), off.call⟩
    | updateCache other status =>
      refine ih ?_ fresh rest
      rw [step]
      cases site.updateCache_cases other status with
      | inl same =>
        rw [same]
        exact off
      | inr updated =>
        rw [updated.2]
        refine ⟨off.gone.updateChannelStatus other status, off.idle, off.snapshots, ?_⟩
        rintro _ ⟨⟩
        exact disables status mem_cons_self
    | updateDatabase =>
      refine ih ?_ fresh rest
      rw [step]
      rcases site.updateDatabase_cases with ⟨-, same⟩ |
        ⟨other, status, calling, ⟨same, -⟩ | saved⟩
      · rw [same]
        exact off
      · rw [same]
        exact { off with call := nofun }
      · rw [saved]
        refine ⟨off.gone, Idle.saveStatus (.inr off.idle) fun same => ?_, off.snapshots, nofun⟩
        exact off.call status (same ▸ calling)

/-- While the call holds the lock, the channel stays out of the lists. -/
theorem gone_of_quiet (gone : Gone id site.cache) (calling : site.call = some (id, status))
    (tidy : site.Tidy id) (quiet : ∀ event ∈ events, event.quiet = true) :
    Gone id (run Site.step site events).cache ∧
      (run Site.step site events).call = some (id, status) ∧
      (run Site.step site events).Tidy id := by
  apply @run_invariant_of_mem _ _ Site.step
    (fun site => Gone id site.cache ∧ site.call = some (id, status) ∧ site.Tidy id) events
  · intro site event member inv
    obtain ⟨gone, calling, tidy⟩ := inv
    have kept := tidy.step event
    cases event with
    | read => exact ⟨gone, calling, kept⟩
    | publish => cases quiet _ member
    | updateCache other status =>
      cases site.updateCache_cases other status with
      | inl same =>
        rw [Site.step, same]
        exact ⟨gone, calling, tidy⟩
      | inr updated =>
        rw [updated.1] at calling
        cases calling
    | updateDatabase => cases quiet _ member
  · exact ⟨gone, calling, tidy⟩

theorem off_of_updateDatabase (gone : Gone id site.cache)
    (calling : site.call = some (id, status)) (tidy : site.Tidy id)
    (disables : status ≠ channelStatusEnabled) : (site.step .updateDatabase).Off id [] := by
  rw [Site.step]
  rcases site.updateDatabase_cases with ⟨free, -⟩ | ⟨other, written, held, ⟨same, already⟩ | saved⟩
  · rw [free] at calling
    cases calling
  · cases held.symm.trans calling
    rw [same]
    refine ⟨gone, ?_, forall_mem_nil _, nofun⟩
    rintro channel member rfl
    apply isEnabled_eq_false
    rw [already channel (findChannel_of_mem tidy.channels.nodup member)]
    exact disables
  · cases held.symm.trans calling
    rw [saved]
    exact ⟨gone, Idle.saveStatus (.inl rfl) fun _ => disables, forall_mem_nil _, nofun⟩

end Steps

/-- For every table of channels, every cache built from it and every interleaving of refreshes and
calls: when a call that disables a channel has been accepted by the cache and has returned, the
channel is not routed as long as no call enables it, if the names of its groups are distinct and if
every refresh that replaces the cache after the call has begun has read the channels after the call
has written to the database. -/
theorem disabled_channel_not_routed (channels : List Channel)
    (nodup : (channels.map Channel.id).Nodup) (front middle back : List CacheEvent)
    (id status : Int) (disables : status ≠ channelStatusEnabled)
    (groups : ∀ channel ∈ channels, channel.id = id → channel.getGroups.Nodup)
    (idle : (run Site.step (Site.start channels) front).call = none)
    (accepted : ∃ channel, (cacheAfter channels front).byId id = some channel ∧
      channel.status ≠ status)
    (quiet : ∀ event ∈ middle, event.quiet = true) (fresh : Fresh [] back)
    (disabled : ∀ status, .updateCache id status ∈ back → status ≠ channelStatusEnabled)
    (group model requestPath : String) (retry : Nat) (exclude : List Int) (random : Nat)
    (channel : Channel)
    (picked : (cacheAfter channels (front ++ .updateCache id status ::
      (middle ++ .updateDatabase :: back))).getRandomSatisfiedChannelExcludingForPath group model
        retry exclude requestPath random = .ok (some channel)) : channel.id ≠ id := by
  have initially : (Site.start channels).Tidy id :=
    ⟨⟨nodup, groups⟩, nofun, once_initChannelCache ⟨nodup, groups⟩⟩
  have tidy : (run Site.step (Site.start channels) front).Tidy id :=
    @run_invariant_of_all _ _ Site.step (Site.Tidy id) (fun _ event inv => inv.step event) _ front
      initially
  rw [cacheAfter, run_append, run_cons, run_append, run_cons] at picked
  rw [cacheAfter] at accepted
  generalize run Site.step (Site.start channels) front = before at tidy idle accepted picked
  obtain ⟨_, found, other⟩ := accepted
  have begins : before.step (.updateCache id status) =
      { before with cache := before.cache.updateChannelStatus id status
                    call := some (id, status) } := by
    rw [Site.step, Site.updateCache, idle, found]
    exact if_neg other
  have begun := tidy.step (.updateCache id status)
  rw [begins] at begun picked
  obtain ⟨gone, calling, stillTidy⟩ := gone_of_quiet (tidy.once.gone disables) rfl begun quiet
  have off := off_of_updateDatabase gone calling stillTidy disables
  obtain ⟨⟨name, listed⟩, -, -⟩ := Cache.pick_some picked
  intro same
  rw [same] at listed
  exact off.run fresh disabled group name listed

def tableOf (group : String) : List Channel :=
  [{ id := 1, models := "gpt-4o", group := group }, { id := 2, models := "gpt-4o-mini" }]

/-- Whether the first channel is picked for its model. -/
def firstIsPicked (cache : Cache) : Bool :=
  match cache.getRandomSatisfiedChannelExcludingForPath "default" "gpt-4o" 0 []
      "/v1/chat/completions" 0 with
  | .ok (some channel) => channel.id = 1
  | _ => false

theorem disabled_channel_not_routed_freshRefresh :
    firstIsPicked (cacheAfter (tableOf "default") []) = true ∧
      ∀ channel, (cacheAfter (tableOf "default")
        ([] ++ .updateCache 1 channelStatusAutoDisabled :: ([.read 0] ++ .updateDatabase ::
          [.read 0, .publish 0]))).getRandomSatisfiedChannelExcludingForPath "default" "gpt-4o" 0
            [] "/v1/chat/completions" 0 = .ok (some channel) → channel.id ≠ 1 := by
  refine ⟨by decide +kernel, ?_⟩
  exact disabled_channel_not_routed (tableOf "default") (by decide) [] [.read 0]
    [.read 0, .publish 0] 1 channelStatusAutoDisabled (by decide) (by decide +kernel) rfl
    ⟨_, rfl, by decide⟩ (by decide) ⟨mem_cons_self, trivial⟩ (by simp) "default" "gpt-4o"
    "/v1/chat/completions" 0 [] 0

/-- A channel is routed after the call that disables it has returned: a refresh has read the
channels before, or its groups repeat a name. -/
theorem disabled_channel_is_routed :
    firstIsPicked (cacheAfter (tableOf "default")
      [.read 0, .updateCache 1 channelStatusAutoDisabled, .updateDatabase, .publish 0]) = true ∧
    firstIsPicked (cacheAfter (tableOf "default, default")
      [.updateCache 1 channelStatusAutoDisabled, .updateDatabase]) = true := by
  constructor
  · decide +kernel
  · decide +kernel

end StuHelper.Routing
