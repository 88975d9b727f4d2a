import Mathlib.Algebra.BigOperators.Ring.List
import StuHelper.Routing.Pick

/-!
# The two ways of picking agree

What a pick should be is said by the channels alone.  The eligible channels are the enabled ones
listed under the group and the name that are not excluded and serve the path; the name is the exact
one if some channel is eligible under it, and otherwise the normalized one; and a route is an
eligible channel of the greatest priority.  With the first tier asked for, both the cache and the
database pick a route whenever there is one.
-/

namespace StuHelper.Routing

open Lib Database List

/-! ## Routes -/

section Routes

variable (channels : List Channel) (group model : String) (exclude : List Int)
  (requestPath : String)

def eligible (name : String) : List Channel :=
  channels.filter fun channel => channel.isEnabled ∧ group ∈ channel.getGroups ∧
    name ∈ channel.getRoutableModels ∧ channel.id ∉ exclude ∧ channel.serves requestPath

def servedName : String :=
  if eligible channels group exclude requestPath model = [] then formatMatchingModelName model
  else model

/-- The pick is an eligible channel of the greatest priority, and there is none only if there is no
eligible channel. -/
def IsRoute : Option Channel → Prop
  | none => eligible channels group exclude requestPath
      (servedName channels group model exclude requestPath) = []
  | some channel =>
    channel ∈ eligible channels group exclude requestPath
      (servedName channels group model exclude requestPath) ∧
    ∀ other ∈ eligible channels group exclude requestPath
      (servedName channels group model exclude requestPath), other.getPriority ≤ channel.getPriority

end Routes

variable {channel : Channel}

section Eligible

variable {channels : List Channel} {group model name : String} {exclude : List Int}
  {requestPath : String}

theorem mem_eligible :
    channel ∈ eligible channels group exclude requestPath name ↔
      channel ∈ channels ∧ channel.isEnabled = true ∧ group ∈ channel.getGroups ∧
        name ∈ channel.getRoutableModels ∧ channel.id ∉ exclude ∧
        channel.serves requestPath = true := by
  rw [eligible, mem_filter, decide_eq_true_iff]

/-- Two routes are alike: both are there or not, and their priorities are the same. -/
theorem IsRoute.agree {first second : Option Channel}
    (one : IsRoute channels group model exclude requestPath first)
    (other : IsRoute channels group model exclude requestPath second) :
    first.isSome = second.isSome ∧
      ∀ left ∈ first, ∀ right ∈ second, left.getPriority = right.getPriority := by
  cases first with
  | none =>
    cases second with
    | none => exact ⟨rfl, nofun⟩
    | some =>
      have member := other.1
      rw [one] at member
      cases member
  | some left =>
    cases second with
    | none =>
      have member := one.1
      rw [other] at member
      cases member
    | some right =>
      refine ⟨rfl, ?_⟩
      rintro _ ⟨⟩ _ ⟨⟩
      exact Int.le_antisymm (other.2 left one.1) (one.2 right other.1)

end Eligible

/-! ## The cache -/

section Cached

variable {db : Database} {group model name : String} {exclude : List Int} {requestPath : String}

theorem id_mem_available (member : channel ∈ db.channels) :
    channel.id ∈ (initChannelCache db.channels).available group name exclude requestPath ↔
      channel ∈ eligible db.channels group exclude requestPath name := by
  have found := findChannel_of_mem db.nodup member
  have listed : channel.id ∈ filterExcludedChannelIDs
      ((initChannelCache db.channels).lists group name) exclude ↔
        channel.isEnabled = true ∧ group ∈ channel.getGroups ∧
          name ∈ channel.getRoutableModels ∧ channel.id ∉ exclude := by
    rw [filterExcludedChannelIDs, mem_filter, mem_lists, decide_eq_true_iff]
    constructor
    · rintro ⟨⟨other, there, enabled, inGroup, inModels, same⟩, kept⟩
      rw [inj_on_of_nodup_map db.nodup there member same] at enabled inGroup inModels
      exact ⟨enabled, inGroup, inModels, kept⟩
    · rintro ⟨enabled, inGroup, inModels, kept⟩
      exact ⟨⟨channel, member, enabled, inGroup, inModels, rfl⟩, kept⟩
  rw [Cache.available, Cache.filterChannelsForRequestPath, mem_eligible]
  by_cases anyPath : requestPath = ""
  · rw [if_pos anyPath, listed, Channel.serves]
    simp [anyPath, member]
  · rw [if_neg anyPath, mem_filter, listed, Channel.serves]
    simp [initChannelCache, found, anyPath, member, and_assoc]

theorem exists_of_available {id : Int}
    (there : id ∈ (initChannelCache db.channels).available group name exclude requestPath) :
    ∃ channel ∈ db.channels, channel.id = id := by
  obtain ⟨channel, member, -, -, -, same⟩ := mem_lists.mp (Cache.mem_available there).1
  exact ⟨channel, member, same⟩

theorem available_eq_nil_iff :
    (initChannelCache db.channels).available group name exclude requestPath = [] ↔
      eligible db.channels group exclude requestPath name = [] := by
  rw [eq_nil_iff_forall_not_mem, eq_nil_iff_forall_not_mem]
  constructor
  · intro none channel member
    exact none channel.id ((id_mem_available (mem_eligible.mp member).1).mpr member)
  · intro none id there
    obtain ⟨channel, member, rfl⟩ := exists_of_available there
    exact none channel ((id_mem_available member).mp there)

theorem available_servedName :
    (if (initChannelCache db.channels).available group model exclude requestPath = [] then
      (initChannelCache db.channels).available group (formatMatchingModelName model) exclude
        requestPath
    else (initChannelCache db.channels).available group model exclude requestPath) =
      (initChannelCache db.channels).available group
        (servedName db.channels group model exclude requestPath) exclude requestPath := by
  rw [servedName]
  by_cases none : eligible db.channels group exclude requestPath model = []
  · rw [if_pos none, if_pos (available_eq_nil_iff.mpr none)]
  · rw [if_neg none, if_neg (mt available_eq_nil_iff.mp none)]

end Cached

/-- A tier that is not empty has a channel that is drawn. -/
theorem exists_drawChannel {targets : List Channel} (some_ : targets ≠ []) (random : Nat) :
    ∃ channel ∈ targets, drawChannel targets random = some channel := by
  have length := length_pos_iff.mpr some_
  apply exists_draw (fun value isNegative => decide_eq_true isNegative) (Int.natCast_nonneg _)
  rw [sum_map_add, sum_map_mul_right, map_const', sum_replicate, nsmul_eq_mul,
    Nat.cast_lt]
  generalize (targets.map Channel.getWeight).sum = sumWeight
  by_cases weightless : sumWeight = 0
  · rw [if_pos weightless, if_pos weightless, if_neg fun both => both.1 weightless, weightless,
      Nat.mul_one, Nat.zero_mul, Nat.zero_add]
    exact Nat.mod_lt _ (Nat.mul_pos length (Nat.zero_lt_succ 99))
  · rw [if_neg weightless, if_neg weightless, Nat.mul_zero, Nat.add_zero]
    apply Nat.mod_lt
    apply Nat.mul_pos (Nat.pos_of_ne_zero weightless)
    split
    · exact Nat.zero_lt_succ 99
    · exact Nat.one_pos

section Choice

variable {cache : Cache} {ids : List Int}

theorem lookupAll_eq (found : ∀ id ∈ ids, ∃ channel, cache.byId id = some channel) :
    cache.lookupAll ids = .ok (ids.filterMap cache.byId) := by
  induction ids with
  | nil => rfl
  | cons id ids ih =>
    obtain ⟨_, here⟩ := found id mem_cons_self
    rw [Cache.lookupAll, ih fun other member => found other (mem_cons_of_mem _ member),
      Cache.lookup, here, filterMap_cons_some here]

theorem exists_choose {group model : String} {retry : Nat} {exclude : List Int}
    (first : retry = 0 ∨ exclude ≠ []) {channels : List Channel} (some_ : channels ≠ [])
    (random : Nat) :
    ∃ channel ∈ channels,
      Cache.choose group model retry exclude channels random = .ok (some channel) ∧
      ∀ other ∈ channels, other.getPriority ≤ channel.getPriority := by
  have priorities : tiers (channels.map Channel.getPriority) ≠ [] := by
    rw [ne_eq, tiers_eq_nil_iff, map_eq_nil_iff]
    exact some_
  obtain ⟨top, rest, listed⟩ := exists_cons_of_ne_nil priorities
  have index : (if exclude ≠ [] then 0 else
      if retry ≥ (top :: rest).length then (top :: rest).length - 1 else retry) = 0 := by
    cases first with
    | inl zero =>
      have short : ¬0 ≥ (top :: rest).length := Nat.not_le.mpr (Nat.zero_lt_succ rest.length)
      rw [zero, if_neg short, ite_self]
    | inr excluding => exact if_pos excluding
  obtain ⟨_, there, priority⟩ := mem_map.mp (mem_of_tiers_cons listed)
  have targets : (channels.filter fun channel => channel.getPriority = top) ≠ [] :=
    ne_nil_of_mem (mem_filter.mpr ⟨there, decide_eq_true priority⟩)
  obtain ⟨channel, drawnFrom, drawn⟩ := exists_drawChannel targets random
  obtain ⟨member, atTop⟩ := mem_filter.mp drawnFrom
  refine ⟨channel, member, ?_, ?_⟩
  · simp only [Cache.choose, listed, index, getElem?_cons_zero, Option.getD_some,
      if_neg targets, drawn]
  · intro other member
    rw [of_decide_eq_true atTop]
    exact le_of_tiers_cons listed (mem_map_of_mem member)

end Choice

theorem mem_filterMap_available {db : Database} {group name : String} {exclude : List Int}
    {requestPath : String} :
    channel ∈ ((initChannelCache db.channels).available group name exclude requestPath).filterMap
        (initChannelCache db.channels).byId ↔
      channel ∈ eligible db.channels group exclude requestPath name := by
  rw [mem_filterMap]
  constructor
  · rintro ⟨id, member, here⟩
    have there : channel ∈ db.channels := mem_of_find?_eq_some here
    rw [← findChannel_id here] at member
    exact (id_mem_available there).mp member
  · intro member
    have there := (mem_eligible.mp member).1
    exact ⟨channel.id, (id_mem_available there).mpr member, findChannel_of_mem db.nodup there⟩

variable {retry : Nat}

theorem cache_isRoute (db : Database) (group model : String) {exclude : List Int}
    (first : retry = 0 ∨ exclude ≠ []) (requestPath : String) (random : Nat) :
    ∃ pick, (initChannelCache db.channels).getRandomSatisfiedChannelExcludingForPath group model
        retry exclude requestPath random = .ok pick ∧
      IsRoute db.channels group model exclude requestPath pick := by
  simp only [Cache.getRandomSatisfiedChannelExcludingForPath, available_servedName]
  have channels := fun {channel : Channel} => @mem_filterMap_available channel db group
    (servedName db.channels group model exclude requestPath) exclude requestPath
  have found : ∀ id ∈ (initChannelCache db.channels).available group
      (servedName db.channels group model exclude requestPath) exclude requestPath,
        ∃ channel, (initChannelCache db.channels).byId id = some channel := by
    intro id member
    obtain ⟨channel, there, rfl⟩ := exists_of_available member
    exact ⟨channel, findChannel_of_mem db.nodup there⟩
  cases listed : (initChannelCache db.channels).available group
      (servedName db.channels group model exclude requestPath) exclude requestPath with
  | nil => exact ⟨none, rfl, available_eq_nil_iff.mp listed⟩
  | cons id rest =>
    rw [listed] at channels found
    obtain ⟨start, here⟩ := found id mem_cons_self
    cases rest with
    | nil =>
      have only : [id].filterMap (initChannelCache db.channels).byId = [start] := by
        rw [filterMap_cons_some here, filterMap_nil]
      refine ⟨some start, ?_, ?_, ?_⟩
      · simp only [Cache.lookup, here]
        rfl
      · rw [← channels, only]
        exact mem_singleton_self start
      · intro other member
        rw [← channels, only, mem_singleton] at member
        rw [member]
    | cons next rest =>
      have some_ : (id :: next :: rest).filterMap (initChannelCache db.channels).byId ≠ [] := by
        rw [filterMap_cons_some here]
        exact cons_ne_nil _ _
      obtain ⟨channel, member, chosen, top⟩ :=
        @exists_choose group model retry exclude first _ some_ random
      refine ⟨some channel, ?_, channels.mp member, ?_⟩
      · simp only [lookupAll_eq found]
        exact chosen
      · intro other eligible_
        exact top other (channels.mpr eligible_)

/-! ## The database -/

section Stored

variable {db : Database} {group model name : String} {exclude : List Int} {requestPath : String}

/-- The rows of the first tier: they have the greatest priority, and there are some whenever there
are abilities. -/
theorem getChannelQuery_top (first : retry = 0 ∨ exclude ≠ []) :
    (db.getChannelQuery group name retry exclude = [] ↔ db.abilitiesOf group name exclude = []) ∧
      ∀ ability ∈ db.getChannelQuery group name retry exclude,
        ability ∈ db.abilitiesOf group name exclude ∧
          ∀ other ∈ db.abilitiesOf group name exclude, other.priority ≤ ability.priority := by
  have zero : (if exclude ≠ [] then 0 else retry) = 0 := by
    cases first with
    | inl zero => rw [zero, ite_self]
    | inr excluding => exact if_pos excluding
  simp only [getChannelQuery, zero, getPriority]
  cases listed : tiers ((db.abilitiesOf group name exclude).map Ability.priority) with
  | nil =>
    have none : db.abilitiesOf group name exclude = [] :=
      map_eq_nil_iff.mp (tiers_eq_nil_iff.mp listed)
    exact ⟨iff_of_true rfl none, forall_mem_nil _⟩
  | cons top rest =>
    have short : ¬0 ≥ (top :: rest).length := Nat.not_le.mpr (Nat.zero_lt_succ rest.length)
    obtain ⟨best, there, priority⟩ := mem_map.mp (mem_of_tiers_cons listed)
    simp only [if_neg short, getElem?_cons_zero]
    constructor
    · apply iff_of_false
      · apply ne_nil_of_mem (a := best)
        rw [mem_insertionSort]
        exact mem_filter.mpr ⟨there, decide_eq_true priority⟩
      · exact ne_nil_of_mem there
    · intro ability member
      rw [mem_insertionSort] at member
      obtain ⟨inRows, atTop⟩ := mem_filter.mp member
      refine ⟨inRows, fun other member => ?_⟩
      rw [of_decide_eq_true atTop]
      exact le_of_tiers_cons listed (mem_map_of_mem member)

theorem exists_drawAbility {abilities : List Ability} (some_ : abilities ≠ []) (random : Nat) :
    ∃ ability ∈ abilities, drawAbility abilities random = some ability := by
  apply exists_draw (fun value isNegative => decide_eq_true (Int.le_of_lt isNegative))
    (Int.natCast_nonneg _)
  rw [Nat.cast_lt]
  apply Nat.mod_lt
  obtain ⟨first, _, rfl⟩ := exists_cons_of_ne_nil some_
  exact Nat.lt_of_lt_of_le (Nat.succ_pos (first.weight + 9)) (Nat.le_add_right _ _)

theorem find?_ne_nil_getD (rows : List Ability) (rest : List (List Ability)) :
    (((rows :: rest).find? (· ≠ [])).getD []) =
      if rows = [] then (rest.find? (· ≠ [])).getD [] else rows := by
  rw [find?_cons]
  by_cases none : rows = []
  · rw [if_pos none, decide_eq_false (not_not_intro none)]
  · rw [if_neg none, decide_eq_true none, Option.getD_some]

/-- The normalized name is looked up when the exact one has no rows. -/
theorem candidateAbilities_eq (retry : Nat) :
    db.candidateAbilities group model retry exclude =
      if db.getChannelQuery group model retry exclude = [] then
        db.getChannelQuery group (formatMatchingModelName model) retry exclude
      else db.getChannelQuery group model retry exclude := by
  rw [candidateAbilities, routableModelCandidates]
  split
  · rw [map_cons, map_cons, map_nil, find?_ne_nil_getD, find?_ne_nil_getD]
    split
    · split
      · rename_i empty
        exact empty.symm
      · rfl
    · rfl
  · rename_i same
    -- the normalized name is dropped only when it is the exact one
    have equal : formatMatchingModelName model = model := by
      by_contra differs
      refine same ⟨?_, differs⟩
      by_cases named : model = ""
      · intro nothing
        exact differs (nothing.trans named.symm)
      · exact formatMatchingModelName_ne_empty named
    rw [equal, map_cons, map_nil, find?_ne_nil_getD]
    split
    · rename_i empty
      exact empty.symm
    · rfl

theorem eligible_cons (member : channel ∈ db.channels)
    (unfit : channel.serves requestPath = false) :
    eligible db.channels group (channel.id :: exclude) requestPath name =
      eligible db.channels group exclude requestPath name := by
  apply filter_congr
  intro other there
  apply Bool.decide_congr
  have kept : other.serves requestPath = true →
      (other.id ∉ channel.id :: exclude ↔ other.id ∉ exclude) := by
    intro serves
    rw [mem_cons, not_or, and_iff_right]
    intro same
    rw [inj_on_of_nodup_map db.nodup there member same, unfit] at serves
    cases serves
  constructor
  · rintro ⟨enabled, inGroup, inModels, outside, serves⟩
    exact ⟨enabled, inGroup, inModels, (kept serves).mp outside, serves⟩
  · rintro ⟨enabled, inGroup, inModels, outside, serves⟩
    exact ⟨enabled, inGroup, inModels, (kept serves).mpr outside, serves⟩

variable (exact_ : db.Exact) {ability : Ability}

include exact_

theorem exists_ability (member : channel ∈ eligible db.channels group exclude requestPath name) :
    ∃ ability ∈ db.abilitiesOf group name exclude, ability.channelId = channel.id := by
  obtain ⟨there, enabled, inGroup, inModels, kept, -⟩ := mem_eligible.mp member
  obtain ⟨ability, listed, isEnabled, sameGroup, sameModel, same⟩ :=
    exact_.complete channel there enabled group inGroup name inModels
  refine ⟨ability, mem_abilitiesOf.mpr ⟨listed, sameGroup, sameModel, isEnabled, ?_⟩, same⟩
  rw [same]
  exact kept

theorem channel_of_ability (member : ability ∈ db.abilitiesOf group name exclude) :
    ∃ channel, findChannel db.channels ability.channelId = some channel ∧
      channel.getPriority = ability.priority ∧
      (channel.serves requestPath = true →
        channel ∈ eligible db.channels group exclude requestPath name) := by
  obtain ⟨listed, rfl, rfl, isEnabled, kept⟩ := mem_abilitiesOf.mp member
  obtain ⟨channel, there, enabled, same, inGroup, inModels, priority⟩ :=
    exact_.sound ability listed isEnabled
  rw [same] at kept ⊢
  refine ⟨channel, findChannel_of_mem db.nodup there, priority.symm, fun serves => ?_⟩
  exact mem_eligible.mpr ⟨there, enabled, inGroup, inModels, kept, serves⟩

theorem eligible_eq_nil (none : db.abilitiesOf group name exclude = []) :
    eligible db.channels group exclude requestPath name = [] := by
  apply eq_nil_iff_forall_not_mem.mpr
  intro channel member
  obtain ⟨_, there, -⟩ := exists_ability exact_ member
  rw [none] at there
  cases there

variable (first : retry = 0 ∨ exclude ≠ [])

include first

theorem isRoute_of_query
    (served : eligible db.channels group exclude requestPath name ≠ [] →
      servedName db.channels group model exclude requestPath = name)
    (member : ability ∈ db.getChannelQuery group name retry exclude) :
    ∃ channel, findChannel db.channels ability.channelId = some channel ∧
      (channel.serves requestPath = true →
        IsRoute db.channels group model exclude requestPath (some channel)) := by
  obtain ⟨there, top⟩ := (getChannelQuery_top first).2 ability member
  obtain ⟨channel, found, priority, fits⟩ :=
    @channel_of_ability db group name exclude requestPath exact_ ability there
  refine ⟨channel, found, fun serves => ?_⟩
  have isEligible := fits serves
  rw [IsRoute, served (ne_nil_of_mem isEligible)]
  refine ⟨isEligible, fun other otherEligible => ?_⟩
  obtain ⟨rival, listed, same⟩ := exists_ability exact_ otherEligible
  obtain ⟨_, ownerFound, ownerPriority, -⟩ :=
    @channel_of_ability db group name exclude requestPath exact_ rival listed
  rw [same, findChannel_of_mem db.nodup (mem_eligible.mp otherEligible).1] at ownerFound
  cases ownerFound
  rw [ownerPriority, priority]
  exact top rival listed

theorem isRoute_of_candidate (member : ability ∈ db.candidateAbilities group model retry exclude) :
    ∃ channel, findChannel db.channels ability.channelId = some channel ∧
      (channel.serves requestPath = true →
        IsRoute db.channels group model exclude requestPath (some channel)) := by
  rw [candidateAbilities_eq] at member
  split at member
  · rename_i empty
    have none := (getChannelQuery_top first).1.mp empty
    exact isRoute_of_query exact_ first (fun _ => if_pos (eligible_eq_nil exact_ none)) member
  · exact isRoute_of_query exact_ first (fun some_ => if_neg some_) member

theorem isRoute_none (nothing : db.candidateAbilities group model retry exclude = []) :
    IsRoute db.channels group model exclude requestPath none := by
  rw [candidateAbilities_eq] at nothing
  split at nothing
  · rename_i empty
    have exactNone := (getChannelQuery_top first).1.mp empty
    have normalizedNone := (getChannelQuery_top first).1.mp nothing
    rw [IsRoute, servedName, if_pos (eligible_eq_nil exact_ exactNone)]
    exact eligible_eq_nil exact_ normalizedNone
  · rename_i some_
    exact absurd nothing some_

end Stored

theorem pickRound_stop {db : Database} (exact_ : db.Exact) {group model : String}
    {requestPath : String} {random : Nat → Nat} {state : List Int × Nat}
    (first : retry = 0 ∨ state.1 ≠ []) {result : Except String (Option Channel)}
    (stop : db.pickRound group model retry requestPath random state = .stop result) :
    ∃ pick, result = .ok pick ∧ IsRoute db.channels group model state.1 requestPath pick := by
  rw [pickRound] at stop
  simp only [drawnChannel] at stop
  by_cases nothing : db.candidateAbilities group model retry state.1 = []
  · rw [if_pos nothing] at stop
    cases stop
    exact ⟨none, rfl, isRoute_none exact_ first nothing⟩
  · obtain ⟨_, member, drawn⟩ := exists_drawAbility nothing (random state.2)
    obtain ⟨channel, found, fits⟩ := isRoute_of_candidate exact_ first member
    rw [if_neg nothing, drawn, Option.bind_some, found] at stop
    simp only [afterDraw] at stop
    split at stop
    · rename_i serves
      cases stop
      exact ⟨some channel, rfl, fits serves⟩
    · cases stop

theorem database_isRoute (db : Database) (exact_ : db.Exact) (group model : String)
    {exclude : List Int} (first : retry = 0 ∨ exclude ≠ []) (requestPath : String)
    (random : Nat → Nat) :
    ∃ pick, db.getChannelExcludingForPath group model retry exclude requestPath random
        (remaining (db.channels.map Channel.id) exclude + 1) = some (.ok pick) ∧
      IsRoute db.channels group model exclude requestPath pick := by
  -- a route without the channels that do not serve the path is a route
  let Inv (state : List Int × Nat) : Prop :=
    (retry = 0 ∨ state.1 ≠ []) ∧ ∀ pick, IsRoute db.channels group model state.1 requestPath pick →
      IsRoute db.channels group model exclude requestPath pick
  have keeps (state next : List Int × Nat) (inv : Inv state)
      (again : db.pickRound group model retry requestPath random state = .again next) :
      Inv next ∧ remaining (db.channels.map Channel.id) next.1 <
        remaining (db.channels.map Channel.id) state.1 := by
    obtain ⟨_, inTable, -, unfit, excluded⟩ := pickRound_again again
    refine ⟨⟨Or.inr ?_, fun pick route => ?_⟩, pickRound_remaining again⟩
    · rw [excluded]
      exact cons_ne_nil _ _
    · rw [excluded] at route
      apply inv.2 pick
      cases pick with
      | none | some =>
        rw [IsRoute, servedName, eligible_cons inTable unfit, eligible_cons inTable unfit] at route
        exact route
  have initially : Inv (exclude, 0) := ⟨first, fun _ route => route⟩
  obtain ⟨_, ended, _, inv, stop⟩ := runLoop_of_measure
    (fun state : List Int × Nat => remaining (db.channels.map Channel.id) state.1) keeps initially
  obtain ⟨pick, rfl, route⟩ := pickRound_stop exact_ inv.1 stop
  exact ⟨pick, ended, inv.2 pick route⟩

/-! ## Agreement -/

/-- When the first tier is asked for, the cache that was built from the channels and the database
agree, whatever is drawn.  The calls of the database come to an end; both pick a route; a channel
is found in both or in neither; it is not excluded and serves the path; and the two channels have
the same priority and are listed under the same exact or normalized name. -/
theorem cache_agrees_with_database (db : Database) (exact_ : db.Exact)
    (group model requestPath : String) (retry : Nat) (exclude : List Int)
    (first : retry = 0 ∨ exclude ≠ []) (random : Nat) (randoms : Nat → Nat) :
    ∃ cached stored rounds,
      (initChannelCache db.channels).getRandomSatisfiedChannelExcludingForPath group model retry
        exclude requestPath random = .ok cached ∧
      db.getChannelExcludingForPath group model retry exclude requestPath randoms rounds =
        some (.ok stored) ∧ IsRoute db.channels group model exclude requestPath cached ∧
      IsRoute db.channels group model exclude requestPath stored ∧ cached.isSome = stored.isSome ∧
      (∀ channel, cached = some channel ∨ stored = some channel →
        channel.id ∉ exclude ∧ channel.serves requestPath = true ∧
          servedName db.channels group model exclude requestPath ∈ channel.getRoutableModels) ∧
      ∀ left ∈ cached, ∀ right ∈ stored, left.getPriority = right.getPriority := by
  obtain ⟨cached, fromCache, cachedRoute⟩ := cache_isRoute db group model first requestPath random
  obtain ⟨stored, fromDatabase, storedRoute⟩ :=
    database_isRoute db exact_ group model first requestPath randoms
  obtain ⟨alike, priorities⟩ := cachedRoute.agree storedRoute
  have fits : ∀ pick channel, IsRoute db.channels group model exclude requestPath pick →
      pick = some channel → channel.id ∉ exclude ∧ channel.serves requestPath = true ∧
        servedName db.channels group model exclude requestPath ∈ channel.getRoutableModels := by
    rintro _ channel route rfl
    obtain ⟨-, -, -, listed, kept, serves⟩ := mem_eligible.mp route.1
    exact ⟨kept, serves, listed⟩
  refine ⟨cached, stored, _, fromCache, fromDatabase, cachedRoute, storedRoute, alike, ?_,
    priorities⟩
  intro channel picked
  cases picked with
  | inl picked => exact fits cached channel cachedRoute picked
  | inr picked => exact fits stored channel storedRoute picked

/-- A custom channel for one path before two channels for all. -/
def threeChannels : Database where
  channels :=
    [{ id := 1, type := channelTypeAdvancedCustom, models := "gpt-4o", priority := some 9
       advancedCustom := some ["/v1/messages"] },
     { id := 2, models := "gpt-4o, gpt-4o-mini", group := "default, vip", weight := some 5 },
     { id := 3, models := "gpt-4o", priority := some (-1) }]
  nodup := by decide
  positive := by decide
  abilities :=
    [⟨"default", "gpt-4o", 1, true, 9, 0⟩, ⟨"default", "gpt-4o", 2, true, 0, 5⟩,
     ⟨"default", "gpt-4o-mini", 2, true, 0, 5⟩, ⟨"vip", "gpt-4o", 2, true, 0, 5⟩,
     ⟨"vip", "gpt-4o-mini", 2, true, 0, 5⟩, ⟨"default", "gpt-4o", 3, true, -1, 0⟩]

theorem cache_agrees_with_database_threeChannels :
    ∃ cached stored rounds,
      (initChannelCache threeChannels.channels).getRandomSatisfiedChannelExcludingForPath "default"
        "gpt-4o" 0 [] "/v1/chat/completions" 7 = .ok cached ∧
      threeChannels.getChannelExcludingForPath "default" "gpt-4o" 0 [] "/v1/chat/completions"
        (fun _ => 3) rounds = some (.ok stored) ∧
      IsRoute threeChannels.channels "default" "gpt-4o" [] "/v1/chat/completions" cached ∧
      IsRoute threeChannels.channels "default" "gpt-4o" [] "/v1/chat/completions" stored ∧
      cached.isSome = stored.isSome ∧
      (∀ channel, cached = some channel ∨ stored = some channel →
        channel.id ∉ [] ∧ channel.serves "/v1/chat/completions" = true ∧
          servedName threeChannels.channels "default" "gpt-4o" [] "/v1/chat/completions" ∈
            channel.getRoutableModels) ∧
      ∀ left ∈ cached, ∀ right ∈ stored, left.getPriority = right.getPriority :=
  cache_agrees_with_database threeChannels ⟨by decide +kernel, by decide +kernel⟩ "default"
    "gpt-4o" "/v1/chat/completions" 0 [] (Or.inl rfl) 7 fun _ => 3

end StuHelper.Routing
