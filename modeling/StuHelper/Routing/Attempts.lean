import StuHelper.Routing.NoRetry

/-!
# The attempts of a request

The counter of the relay loop is set back in three places, so it does not say when the loop ends.
The set of excluded channels does: every channel that is attempted, and every one whose setup
fails, is excluded from then on, and a channel that is selected is not excluded.  So no channel is
tried twice, and the loop ends when no channel is left.

The index of the group does not decrease: it is at most one after the group that is selected, and
this is the index that the next group has.
-/

namespace StuHelper.Routing

open Lib Request RelayState List

/-! ## The channels -/

/-- The channels that have been tried are excluded, each has been tried once, and the one that is
to be attempted is not excluded. -/
structure RelayState.Untried (ids : List Int) (state : RelayState) : Prop where
  nodup : state.tried.Nodup
  known : ∀ id ∈ state.tried, id ∈ ids
  excluded : ∀ id ∈ state.tried, id ∈ state.param.excludeChannelIDs
  current : ∀ id ∈ state.current, id ∈ ids ∧ id ∉ state.param.excludeChannelIDs
  attempts : (state.attempts.map Attempt.channelID).Sublist state.tried

/-- How far a loop can still go. -/
def RelayState.size (ids : List Int) (state : RelayState) : Nat :=
  2 * remaining ids state.param.excludeChannelIDs +
    match state.phase with
    | .head => 1
    | .setup _ => 0

variable {id : Int} {channel : Channel} {moment : Moment}

section Untried

variable {ids : List Int} {request : Request} {world : Nat → Happening}
  {state next : RelayState}

theorem excludeChannel_eq (positive : 0 < id) (param : RetryParam) :
    (param.excludeChannel id).excludeChannelIDs = id :: param.excludeChannelIDs :=
  if_neg (Int.not_le.mpr positive)

theorem RelayState.Untried.concat (untried : state.Untried ids) (current : id ∈ state.current) :
    (state.tried ++ [id]).Nodup ∧ (∀ other ∈ state.tried ++ [id], other ∈ ids) ∧
      ∀ other ∈ state.tried ++ [id], other ∈ id :: state.param.excludeChannelIDs := by
  obtain ⟨known, fresh⟩ := untried.current id current
  have unheard : id ∉ state.tried := fun member => fresh (untried.excluded id member)
  have both : ∀ {property : Int → Prop}, (∀ other ∈ state.tried, property other) → property id →
      ∀ other ∈ state.tried ++ [id], property other := by
    intro property earlier last other member
    rw [mem_append, mem_singleton] at member
    cases member with
    | inl before => exact earlier other before
    | inr same => exact same ▸ last
  refine ⟨?_, both untried.known known, both ?_ mem_cons_self⟩
  · rw [← concat_eq_append, nodup_concat]
    exact ⟨unheard, untried.nodup⟩
  · intro other member
    exact mem_cons_of_mem _ (untried.excluded other member)

variable {context : Context} {param : RetryParam}

/-- A channel that has been selected is about to be set up. -/
theorem untried_toSetup (within : moment.Within ids)
    (found : (request.cacheGetRandomSatisfiedChannel moment context param).channel =
      .ok (some channel)) (nodup : state.tried.Nodup) (known : ∀ id ∈ state.tried, id ∈ ids)
    (excluded : ∀ id ∈ state.tried, id ∈ param.excludeChannelIDs)
    (attempts : (state.attempts.map Attempt.channelID).Sublist state.tried) :
    (toSetup state (request.cacheGetRandomSatisfiedChannel moment context param)
      channel).Untried ids := by
  have same := (request.cacheGetRandomSatisfiedChannel_keeps moment context param).excludeChannelIDs
  refine ⟨nodup, known, ?_, ?_, attempts⟩
  · intro id member
    rw [toSetup, same]
    exact excluded id member
  · rintro _ ⟨⟩
    rw [toSetup, same]
    exact ⟨within.mem (selected_holds found), (selected_notMem found).1⟩

theorem relayRound_untried (positive : ∀ id ∈ ids, 0 < id)
    (within : ∀ step, (world step).moment.Within ids) (untried : state.Untried ids)
    (again : request.relayRound world state = .again next) :
    next.Untried ids ∧ next.size ids < state.size ids := by
  rcases relayRound_again again with ⟨id, current, attempts⟩ |
    ⟨id, failed, channel, phase, found, rfl⟩
  · obtain ⟨-, _, _, param, -, decided, rfl⟩ := attempt_again attempts
    obtain ⟨nodup, known, excluded⟩ := untried.concat current
    obtain ⟨member, fresh⟩ := untried.current id current
    have excludes :
        param.increaseRetry.excludeChannelIDs = id :: state.param.excludeChannelIDs := by
      rw [param.increaseRetry_keeps.1]
      cases afterError_cases decided with
      | inl inGroup =>
        obtain ⟨-, skipRetry, same⟩ := inGroup
        cases same
        exact excludeChannel_eq (positive id member) state.param
      | inr nextGroup =>
        obtain ⟨_, _, _, -, -, same⟩ := nextGroup
        cases same
        exact excludeChannel_eq (positive id member) state.param
    have fewer := remaining_cons_lt member fresh
    refine ⟨⟨nodup, known, ?_, nofun, ?_⟩, ?_⟩
    · rw [excludes]
      exact excluded
    · rw [map_append]
      exact untried.attempts.append (List.Sublist.refl [id])
    · rw [size, size, excludes]
      dsimp only
      omega
  · have same := (request.cacheGetRandomSatisfiedChannel_keeps (world state.clock).moment
      (state.arrived id).context state.selectParam).excludeChannelIDs
    rw [selectParam] at found same ⊢
    rcases phase with ⟨rfl, atHead⟩ | ⟨other, rfl, inSetup⟩
    · rw [atHead] at found same ⊢
      rw [append_nil]
      refine ⟨untried_toSetup (within state.clock) found untried.nodup untried.known
        untried.excluded untried.attempts, ?_⟩
      rw [size, size, atHead, toSetup, same]
      exact Nat.lt_succ_self _
    · rw [inSetup] at found same ⊢
      have current : other.id ∈ state.current := by
        rw [current, inSetup]
        rfl
      obtain ⟨nodup, known, excluded⟩ := untried.concat current
      obtain ⟨member, fresh⟩ := untried.current other.id current
      have excludes := excludeChannel_eq (positive other.id member) state.param
      refine ⟨untried_toSetup (within state.clock) found nodup known ?_
        (untried.attempts.trans (sublist_append_left _ _)), ?_⟩
      · rw [excludes]
        exact excluded
      · rw [size, size, inSetup, toSetup, same, excludes]
        exact Nat.mul_lt_mul_of_pos_left (remaining_cons_lt member fresh) Nat.two_pos

theorem relayRound_untried_stop (untried : state.Untried ids) {relayed : Relayed}
    (stop : request.relayRound world state = .stop relayed) :
    relayed.tried.Nodup ∧ (∀ id ∈ relayed.tried, id ∈ ids) ∧
      (relayed.attempts.map Attempt.channelID).Sublist relayed.tried := by
  rcases (relayRound_stop stop).2 with ⟨same, tried | ⟨id, current, tried⟩⟩ |
    ⟨id, current, -, tried, more⟩
  · rw [same, tried]
    exact ⟨untried.nodup, untried.known, untried.attempts⟩
  · obtain ⟨nodup, known, -⟩ := untried.concat current
    rw [same, tried]
    exact ⟨nodup, known, untried.attempts.trans (sublist_append_left _ _)⟩
  · obtain ⟨nodup, known, -⟩ := untried.concat current
    rw [more, tried, map_append]
    exact ⟨nodup, known, untried.attempts.append (List.Sublist.refl [id])⟩

end Untried

/-! ## The index of the group -/

section Index

variable {request : Request} {world : Nat → Happening} {context : Context}

theorem nextAutoGroupRetryIndex_placed {next : Nat} (placed : request.Placed context)
    (found : request.nextAutoGroupRetryIndex context = some next) :
    (∀ index ∈ context.autoGroupIndex, index ≤ next) ∧ ∀ group ∈ context.autoGroup, ∀ position,
        request.getContextAutoGroups[position]? = some group → next ≤ position + 1 := by
  obtain ⟨-, found⟩ := Option.ite_none_left_eq_some.mp found
  have unfiltered := (Option.filter_eq_some_iff.mp found).1
  rw [nextGroupIndex] at unfiltered
  split at unfiltered
  · rename_i position located
    obtain ⟨group, selected, at_⟩ := Option.bind_eq_some_iff.mp located
    obtain ⟨inside, passes, -⟩ := findIdx?_eq_some_iff_getElem.mp at_
    have here : request.getContextAutoGroups[position]? = some group := by
      rw [getElem?_eq_getElem inside]
      exact congrArg some (of_decide_eq_true passes)
    cases unfiltered
    refine ⟨fun index stored => placed index stored group selected position here, ?_⟩
    intro other chosen position' there
    rw [Option.mem_def, selected] at chosen
    cases chosen
    rw [position_unique here there]
  · rename_i missing
    constructor
    · intro index stored
      rw [Option.mem_def, unfiltered] at stored
      cases stored
      exact Nat.le_refl _
    · intro group chosen position there
      rw [Option.mem_def.mp chosen, Option.bind_some, findIdx?_eq_none_iff] at missing
      have absent := missing group (mem_of_getElem? there)
      exact absurd rfl (of_decide_eq_false absent)

theorem relayRound_placed {state next : RelayState} (placed : request.Placed state.context)
    (again : request.relayRound world state = .again next) :
    request.Placed next.context ∧ state.context.IndexLE next.context := by
  rcases relayRound_again again with ⟨id, -, attempts⟩ |
    ⟨id, failed, channel, -, found, rfl⟩
  · obtain ⟨-, _, _, _, -, decided, rfl⟩ := attempt_again attempts
    have called : request.Placed ((state.arrived id).called (world state.clock)) := placed
    rcases afterError_cases decided with ⟨-, skipRetry, ⟨⟩⟩ | ⟨_, _, index, -, found, ⟨⟩⟩
    · exact ⟨called, Context.IndexLE.of_eq rfl⟩
    · obtain ⟨notBelow, notAbove⟩ := nextAutoGroupRetryIndex_placed called found
      constructor
      · rintro _ ⟨⟩
        exact notAbove
      · intro stored there
        exact ⟨index, rfl, notBelow stored there⟩
  · have arrived : request.Placed (state.arrived id).context := placed
    exact ⟨cacheGetRandomSatisfiedChannel_placed found arrived,
      (request.cacheGetRandomSatisfiedChannel_keeps _ (state.arrived id).context _).index⟩

end Index

/-! ## The channel that is ready -/

section Ready

variable {request : Request} {world : Nat → Happening} {context : Context}

theorem cacheGetChannel_holds
    (found : cacheGetChannel moment id = some channel) : moment.Holds channel := by
  rw [cacheGetChannel] at found
  cases cached : moment.cache with
  | some cache =>
    simp only [cached] at found
    refine Or.inr ⟨cache, cached, ?_⟩
    rw [cache.keyed found]
    exact found
  | none =>
    simp only [cached] at found
    exact Or.inl (mem_of_find?_eq_some found)

variable {happening : Happening} {used : Channel × Context} {rounds : Nat} {ready : Request.Ready}

theorem firstChannel_holds (first : request.firstChannel happening context = .ok used) :
    happening.moment.Holds used.1 := by
  rcases firstChannel_cases first with ⟨-, stored, -⟩ | ⟨id, -, usable⟩ |
    ⟨skipRetry, selected⟩
  · exact Or.inl stored
  · exact cacheGetChannel_holds (usablePreferred_some usable).1
  · exact selected_holds (selectFirst_ok selected).1

/-- The distributor leaves a channel of the tables. -/
theorem distribute_holds
    (distributed : request.distribute world context rounds = some (.ok ready)) :
    ∃ step channel, (world step).moment.Holds channel ∧ ready.context.channelID = channel.id := by
  obtain ⟨state, ⟨step, holds⟩, rfl⟩ := @distribute_ready request world context
    (fun state => ∃ step, (world step).moment.Holds state.channel) rounds ready
    (fun used first => ⟨0, firstChannel_holds first⟩)
    (fun state next _ again => by
      obtain ⟨_, _, found, rfl⟩ := setupRound_again again
      exact ⟨state.clock, selected_holds found⟩)
    distributed
  exact ⟨step, state.channel, holds, rfl⟩

theorem firstChannel_placed (unset : context.autoGroupIndex = none)
    (first : request.firstChannel happening context = .ok used) :
    request.Placed used.2 := by
  have unplaced : ∀ {left : Context}, left.autoGroupIndex = none → request.Placed left := by
    intro left none index stored
    rw [none] at stored
    cases stored
  rcases firstChannel_cases first with ⟨-, -, same⟩ | ⟨id, -, usable⟩ |
    ⟨skipRetry, selected⟩
  · rw [same]
    exact unplaced unset
  · obtain ⟨-, left⟩ := usablePreferred_some usable
    rcases left with ⟨-, skipRetry, left⟩ | ⟨group, -, skipRetry, left⟩
    · rw [left]
      exact unplaced unset
    · rw [left]
      apply unplaced
      rw [Context.marked, Context.setSelectedAutoGroup]
      split
      · exact unset
      · exact unset
  · obtain ⟨found, left⟩ := selectFirst_ok selected
    rw [left]
    exact cacheGetRandomSatisfiedChannel_placed found (unplaced unset)

theorem distribute_placed (unset : context.autoGroupIndex = none)
    (distributed : request.distribute world context rounds = some (.ok ready)) :
    request.Placed ready.context := by
  obtain ⟨state, placed, rfl⟩ := @distribute_ready request world context
    (fun state => request.Placed state.context) rounds ready
    (fun used first => firstChannel_placed unset first)
    (fun state next placed again => by
      obtain ⟨id, _, found, rfl⟩ := setupRound_again again
      have arrived : request.Placed { state.context with channelID := id } := placed
      exact cacheGetRandomSatisfiedChannel_placed found arrived)
    distributed
  exact placed

end Ready

/-! ## The whole loop -/

/-- For every table of channels over fixed ids, however it, the breakers and the time change, and
whatever fails: after `Distribute` has found a channel, the loop of `Relay` ends.  A channel that
has been attempted or has failed in a setup is not tried again; there are at most as many attempts
as ids; and the index that is stored in the context does not decrease from one round to a later one
nor when the loop is left. -/
theorem relay_ends_without_repeating (request : Request) (world : Nat → Happening)
    (ids : List Int) (positive : ∀ id ∈ ids, 0 < id)
    (within : ∀ step, (world step).moment.Within ids) (context : Context)
    (unset : context.autoGroupIndex = none) (rounds : Nat) (ready : Request.Ready)
    (distributed : request.distribute world context rounds = some (.ok ready)) :
    ∃ relayed, request.relay world ready (2 * ids.length + 2) = some relayed ∧ relayed.tried.Nodup ∧
      (relayed.attempts.map Attempt.channelID).Sublist relayed.tried ∧
      relayed.attempts.length ≤ ids.length ∧
      (∀ earlier later, Reaches (request.relayRound world) (request.relayStart ready) earlier →
        Reaches (request.relayRound world) earlier later → earlier.context.IndexLE later.context) ∧
      ∀ last, Reaches (request.relayRound world) (request.relayStart ready) last →
        request.relayRound world last = .stop relayed → last.context.IndexLE relayed.context := by
  obtain ⟨step, _, holds, ready_eq⟩ := distribute_holds distributed
  have known : ready.context.channelID ∈ ids := ready_eq ▸ (within step).mem holds
  have placed := distribute_placed unset distributed
  have initially : (request.relayStart ready).Untried ids := by
    refine ⟨nodup_nil, forall_mem_nil _, forall_mem_nil _, ?_, List.Sublist.refl _⟩
    rintro _ ⟨⟩
    exact ⟨known, not_mem_nil⟩
  have progress : ∀ state next, state.Untried ids → request.relayRound world state = .again next →
      next.Untried ids ∧ next.size ids < state.size ids :=
    fun _ _ untried again => relayRound_untried positive within untried again
  have reached : ∀ state, Reaches (request.relayRound world) (request.relayStart ready) state →
      request.Placed state.context := by
    intro state reaches
    exact @Reaches.invariant _ _ _ (fun state => request.Placed state.context) _ _ reaches
      (fun _ _ placed again => (relayRound_placed placed again).1) placed
  obtain ⟨relayed, ended, last, untried, stop⟩ :=
    runLoop_of_measure (size ids) progress initially
  have bound : (request.relayStart ready).size ids + 1 ≤ 2 * ids.length + 2 :=
    Nat.add_le_add_right (Nat.mul_le_mul_left 2 (remaining_le ids [])) 2
  obtain ⟨nodup, listed, attempts⟩ := relayRound_untried_stop untried stop
  refine ⟨relayed, runLoop_mono _ bound ended, nodup, attempts, ?_, ?_, ?_⟩
  · calc relayed.attempts.length
        = (relayed.attempts.map Attempt.channelID).length := (length_map _).symm
      _ ≤ relayed.tried.length := attempts.length_le
      _ ≤ ids.length := (subperm_of_subset nodup listed).length_le
  · intro earlier later reaches goesOn
    -- the index of a later state is compared with that of the earlier one, round by round
    obtain ⟨-, index⟩ := @Reaches.invariant _ _ _
      (fun state => request.Placed state.context ∧ earlier.context.IndexLE state.context) _ _ goesOn
      (fun _ _ inv again => ⟨(relayRound_placed inv.1 again).1,
        inv.2.trans (relayRound_placed inv.1 again).2⟩)
      ⟨reached earlier reaches, Context.IndexLE.of_eq rfl⟩
    exact index
  · intro last _ stop
    exact (relayRound_stop stop).1

theorem relay_ends_without_repeating_twoChannels :
    ∃ relayed, (retryOnce none).relay
        (fun step => failsOnce { errorCode := "bad_response_status_code" } (step - 1))
        ⟨2, 0, { tokenGroup := "default", usingGroup := "default", channelID := 1 }⟩ 6 =
          some relayed ∧ relayed.tried.Nodup ∧ relayed.attempts.length ≤ 2 := by
  have stored : ∀ channel ∈ twoChannels.channels, channel.id ∈ [1, 2] := by decide
  obtain ⟨relayed, ended, nodup, -, few, -⟩ := relay_ends_without_repeating (retryOnce none)
    (fun step => failsOnce { errorCode := "bad_response_status_code" } (step - 1)) [1, 2]
    (by decide) (fun _ => ⟨stored, nofun⟩)
    { tokenGroup := "default", usingGroup := "default" } rfl 1
    ⟨2, 0, { tokenGroup := "default", usingGroup := "default", channelID := 1 }⟩
    (by decide +kernel)
  exact ⟨relayed, ended, nodup, few⟩

end StuHelper.Routing
