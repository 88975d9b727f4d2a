import StuHelper.Routing.NoRetry

/-!
# Retries in one group

Without cross-group retries, an error never moves a request of the group "auto" to its next group.
A selection does, when all channels of the group are excluded, as they are after they have failed.
And a selection starts from the first group when no index is stored, as after the distributor has
used the preferred channel, whatever group it has found that in.
-/

namespace StuHelper.Routing

open Lib Request List

variable {request : Request} {world : Nat → Happening} {context : Context}

/-! ## The group that is ready -/

/-- The context has a group that selections start from, and the token says "auto". -/
def Request.Settled (request : Request) (context : Context) : Prop :=
  context.tokenGroup = "auto" ∧ ∃ group index, request.InGroup group index context

section

variable (off : request.crossGroupRetry = false)

include off

theorem selection_settled {moment : Moment} {param : RetryParam} {channel : Channel}
    (token : context.tokenGroup = "auto") (auto : param.tokenGroup = "auto")
    (found : (request.cacheGetRandomSatisfiedChannel moment context param).channel =
      .ok (some channel)) :
    request.Settled (request.cacheGetRandomSatisfiedChannel moment context param).context := by
  have named : context.tokenGroup ≠ "" := by
    rw [token]
    decide
  have same := (request.cacheGetRandomSatisfiedChannel_keeps moment context param).token named
  obtain ⟨_, rfl, foundThere, left⟩ := cacheGetRandomSatisfiedChannel_auto found auto
  obtain ⟨group, position, retry, _, _, -, here, selected⟩ :=
    selectAutoGroup_selected _ rfl foundThere
  refine ⟨same.trans token, group, position, ?_⟩
  rw [left, selected]
  exact selected_inGroup off here retry

variable (unpinned : request.specificChannelID = none) (token : context.tokenGroup = "auto")
  (using_ : context.usingGroup = "auto") (unset : context.autoGroupIndex = none)
  (first : ∀ id ∈ (world 0).preferred, ∀ used,
    request.usablePreferred (world 0) context id = some used →
      used.2.autoGroup = request.getContextAutoGroups[0]?)

include unpinned token using_ unset first

theorem firstChannel_settled {used : Channel × Context}
    (found : request.firstChannel (world 0) context = .ok used) : request.Settled used.2 := by
  rcases firstChannel_cases found with ⟨pinned, -⟩ | ⟨id, preferred, usable⟩ |
    ⟨skipRetry, selected⟩
  · rw [unpinned] at pinned
    cases pinned
  · have start := first id preferred used usable
    rcases (usablePreferred_some usable).2 with ⟨single, -⟩ |
      ⟨group, listed, skipRetry, left⟩
    · exact absurd using_ single
    · obtain ⟨_, here⟩ := mem_iff_getElem?.mp listed
      have chosen : used.2.autoGroup = some group := by
        rw [left]
        exact Context.setSelectedAutoGroup_autoGroup
          (ne_empty_of_getContextAutoGroups here)
      refine ⟨?_, group, 0, start.symm.trans chosen, chosen, ?_⟩
      · rw [left]
        exact (Context.setSelectedAutoGroup_keeps group).1.trans token
      · rw [left, Context.marked, Context.setSelectedAutoGroup]
        split
        · exact congrArg (Option.getD · 0) unset
        · exact congrArg (Option.getD · 0) unset
  · obtain ⟨found, left⟩ := selectFirst_ok selected
    rw [left]
    exact selection_settled off token using_ found

theorem distribute_settled {rounds : Nat} {ready : Request.Ready}
    (distributed : request.distribute world context rounds = some (.ok ready)) :
    request.Settled ready.context := by
  obtain ⟨state, ⟨settled, -⟩, rfl⟩ := @distribute_ready request world context
    (fun state => request.Settled state.context ∧ state.param.tokenGroup = "auto") rounds ready
    (fun used found => by
      have settled := firstChannel_settled off unpinned token using_ unset first found
      refine ⟨settled, ?_⟩
      rw [fallbackParam, settled.1]
      rfl)
    (fun state next inv again => by
      obtain ⟨id, _, found, rfl⟩ := setupRound_again again
      have arrived : request.Settled { state.context with channelID := id } := by
        obtain ⟨token, group, index, inGroup⟩ := inv.1
        exact ⟨token, group, index, { inGroup with }⟩
      exact ⟨selection_settled off arrived.1 inv.2 found,
        (request.cacheGetRandomSatisfiedChannel_keeps _ _ _).tokenGroup.trans inv.2⟩)
    distributed
  obtain ⟨token, group, index, inGroup⟩ := settled
  exact ⟨token, group, index, { inGroup with }⟩

end

/-! ## The group of the attempts -/

/-- The request is in a group, and so are its attempts. -/
structure RelayState.Stays (request : Request) (group : String) (index : Nat)
    (state : RelayState) : Prop where
  auto : state.param.tokenGroup = "auto"
  inGroup : request.InGroup group index state.context
  attempts : ∀ attempt ∈ state.attempts, attempt.group = group

section Stays

variable {group : String} {index : Nat} {state next : RelayState}

theorem RelayState.Stays.concat (stays : state.Stays request group index) (happening : Happening)
    (id : Int) :
    ∀ attempt ∈ state.attempts ++ [(state.arrived id).attemptOf happening id],
      attempt.group = group := by
  intro attempt member
  rw [mem_append, mem_singleton] at member
  cases member with
  | inl earlier => exact stays.attempts attempt earlier
  | inr last =>
    have chosen : (state.arrived id).context.autoGroup = some group := stays.inGroup.group
    rw [last, RelayState.attemptOf, chosen]
    rfl

theorem relayRound_stays (off : request.crossGroupRetry = false)
    (stays : state.Stays request group index)
    (there : next.phase ≠ .head → request.pick (world state.clock).moment
      (request.excludeChannelIDs (world state.clock).moment state.selectParam) group
        state.selectParam.retry ≠ .ok none) (again : request.relayRound world state = .again next) :
    next.Stays request group index := by
  rcases relayRound_again again with ⟨id, -, attempts⟩ |
    ⟨id, failed, channel, -, found, rfl⟩
  · obtain ⟨-, _, _, _, -, decided, rfl⟩ := attempt_again attempts
    have single : request.nextAutoGroupRetryIndex ((state.arrived id).called
        (world state.clock)) = none := if_pos (Or.inr (Or.inl (Bool.eq_false_iff.mp off)))
    rcases afterError_cases decided with ⟨-, _, ⟨⟩⟩ | ⟨-, -, _, -, found, -⟩
    swap
    · rw [single] at found
      cases found
    refine ⟨?_, ⟨stays.inGroup.position, stays.inGroup.group, stays.inGroup.start⟩,
      stays.concat (world state.clock) id⟩
    rw [(RetryParam.increaseRetry_keeps _).2]
    exact stays.auto
  · have arrived : request.InGroup group index (state.arrived id).context :=
      ⟨stays.inGroup.position, stays.inGroup.group, stays.inGroup.start⟩
    have auto : state.selectParam.tokenGroup = "auto" := by
      rw [RelayState.selectParam]
      cases state.phase with
      | head | setup => exact stays.auto
    exact ⟨(request.cacheGetRandomSatisfiedChannel_keeps _ _ _).tokenGroup.trans auto,
      cacheGetRandomSatisfiedChannel_stays found off auto arrived (there (by rintro ⟨⟩)),
      stays.attempts⟩

end Stays

/-- For a token of the group "auto" without cross-group retries, and whatever fails: all attempts
are made in the group that the distributor has selected, if it has used a preferred channel only
from the first group, and if that group still has a channel that may be picked whenever another
channel is selected. -/
theorem attempts_in_one_group (request : Request) (world : Nat → Happening)
    (off : request.crossGroupRetry = false) (unpinned : request.specificChannelID = none)
    (context : Context) (token : context.tokenGroup = "auto")
    (using_ : context.usingGroup = "auto") (unset : context.autoGroupIndex = none)
    (first : ∀ id ∈ (world 0).preferred, ∀ used,
      request.usablePreferred (world 0) context id = some used →
        used.2.autoGroup = request.getContextAutoGroups[0]?) (rounds : Nat) (ready : Request.Ready)
    (distributed : request.distribute world context rounds = some (.ok ready))
    (there : ∀ state next, Reaches (request.relayRound world) (request.relayStart ready) state →
      request.relayRound world state = .again next → next.phase ≠ .head →
      ∀ group ∈ ready.context.autoGroup, request.pick (world state.clock).moment
        (request.excludeChannelIDs (world state.clock).moment state.selectParam) group
          state.selectParam.retry ≠ .ok none) :
    ∃ group, ready.context.autoGroup = some group ∧
      (∀ state, Reaches (request.relayRound world) (request.relayStart ready) state →
        ∀ attempt ∈ state.attempts, attempt.group = group) ∧
      ∀ rounds relayed, request.relay world ready rounds = some relayed →
        ∀ attempt ∈ relayed.attempts, attempt.group = group := by
  obtain ⟨readyToken, group, index, inGroup⟩ :=
    distribute_settled off unpinned token using_ unset first distributed
  have initially : (request.relayStart ready).Stays request group index := by
    refine ⟨?_, inGroup, forall_mem_nil _⟩
    rw [relayStart, readyToken]
    rfl
  have reached : ∀ state, Reaches (request.relayRound world) (request.relayStart ready) state →
      state.Stays request group index := by
    intro state reaches
    induction reaches with
    | refl => exact initially
    | again reaches decided ih =>
      exact relayRound_stays off ih
        (fun selected => there _ _ reaches decided selected group inGroup.group) decided
  refine ⟨group, inGroup.group, fun state reaches => (reached state reaches).attempts, ?_⟩
  intro rounds relayed ended
  obtain ⟨last, reaches, stop⟩ := exists_reaches_stop ended
  have stays := reached last reaches
  rcases (relayRound_stop stop).2 with ⟨same, -⟩ | ⟨id, -, -, -, more⟩
  · rw [same]
    exact stays.attempts
  · rw [more]
    exact stays.concat (world last.clock) id

/-! ## Two groups -/

def twoGroups : Database where
  channels :=
    [{ id := 1, models := "gpt-4o" }, { id := 2, models := "gpt-4o", group := "vip" },
      { id := 3, models := "gpt-4o" }]
  nodup := by decide
  positive := by decide
  abilities :=
    [⟨"default", "gpt-4o", 1, true, 0, 0⟩, ⟨"vip", "gpt-4o", 2, true, 0, 0⟩,
      ⟨"default", "gpt-4o", 3, true, 0, 0⟩]

def autoRequest : Request :=
  { settings := { retryTimes := 2 }
    modelName := "gpt-4o"
    usableGroups := ["default", "vip"]
    autoGroups := ["default", "vip"] }

def failsBefore (preferred : Option Int) (fails : Nat) (step : Nat) : Happening :=
  { moment := { database := twoGroups }
    preferred := preferred
    handlerError :=
      if step < fails then some { errorCode := "bad_response_status_code" } else none }

def autoContext : Context := { tokenGroup := "auto", usingGroup := "auto" }

/-- The distributor has selected a channel from a group. -/
def readyIn (group : String) (index : Option Nat) (channelID : Int) : Request.Ready :=
  ⟨2, 0, { autoContext with
    usingGroup := group, autoGroup := some group, autoGroupIndex := index, channelID := channelID }⟩

theorem attempts_in_one_group_twoGroups :
    ∃ group, (readyIn "default" (some 0) 1).context.autoGroup = some group ∧
      (∀ state, Reaches (autoRequest.relayRound (failsBefore none 3))
          (autoRequest.relayStart (readyIn "default" (some 0) 1)) state →
        ∀ attempt ∈ state.attempts, attempt.group = group) ∧
      ∀ rounds relayed, autoRequest.relay (failsBefore none 3) (readyIn "default" (some 0) 1)
          rounds = some relayed → ∀ attempt ∈ relayed.attempts, attempt.group = group := by
  have ends : ((autoRequest.relay (failsBefore none 3) (readyIn "default" (some 0) 1) 3).map
      fun relayed => relayed.attempts.map Attempt.channelID) = some [1, 3] := by decide +kernel
  obtain ⟨_, ended, -⟩ := Option.map_eq_some_iff.mp ends
  have checked : ∀ state ∈ autoRequest.relayStart (readyIn "default" (some 0) 1) ::
      loopStates (autoRequest.relayRound (failsBefore none 3)) 3
        (autoRequest.relayStart (readyIn "default" (some 0) 1)),
      (match autoRequest.relayRound (failsBefore none 3) state with
      | .again _ => (autoRequest.pick (failsBefore none 3 state.clock).moment
          (autoRequest.excludeChannelIDs (failsBefore none 3 state.clock).moment
            state.selectParam) "default" state.selectParam.retry).toOption.join.isSome
      | .stop _ => true) = true := by decide +kernel
  apply attempts_in_one_group autoRequest (failsBefore none 3) rfl rfl autoContext rfl rfl rfl
    nofun 1 (readyIn "default" (some 0) 1) (by decide +kernel)
  rintro state next reaches again - _ ⟨⟩ nothing
  have some_ := checked state (reaches.mem_loopStates ended)
  simp only [again, nothing] at some_
  cases some_

/-- When the channels of the first group have failed, the next attempt is made in the second one;
and after an attempt of the preferred channel of the second group, it is made in the first one. -/
theorem retry_in_another_group :
    (∃ relayed, autoRequest.distribute (failsBefore none 5) autoContext 1 =
        some (.ok (readyIn "default" (some 0) 1)) ∧
      autoRequest.relay (failsBefore none 5) (readyIn "default" (some 0) 1) 5 = some relayed ∧
      relayed.attempts.map Attempt.group = ["default", "default", "vip"]) ∧ ∃ relayed,
      autoRequest.distribute (failsBefore (some 2) 3) autoContext 1 =
        some (.ok (readyIn "vip" none 2)) ∧
      autoRequest.relay (failsBefore (some 2) 3) (readyIn "vip" none 2) 3 = some relayed ∧
      relayed.attempts.map Attempt.group = ["vip", "default"] := by
  have emptied : ((autoRequest.relay (failsBefore none 5) (readyIn "default" (some 0) 1) 5).map
      fun relayed => relayed.attempts.map Attempt.group) = some ["default", "default", "vip"] := by
    decide +kernel
  have preferred : ((autoRequest.relay (failsBefore (some 2) 3) (readyIn "vip" none 2) 3).map
      fun relayed => relayed.attempts.map Attempt.group) = some ["vip", "default"] := by
    decide +kernel
  obtain ⟨first, firstEnds, firstGroups⟩ := Option.map_eq_some_iff.mp emptied
  obtain ⟨second, secondEnds, secondGroups⟩ := Option.map_eq_some_iff.mp preferred
  exact ⟨⟨first, by decide +kernel, firstEnds, firstGroups⟩,
    second, by decide +kernel, secondEnds, secondGroups⟩

end StuHelper.Routing
