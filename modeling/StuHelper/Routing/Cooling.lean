import StuHelper.Routing.NoRetry

/-!
# Channels that are cooling down

`CacheGetRandomSatisfiedChannel` excludes the channels whose breakers are open, and all retries and
all fallbacks after a setup go through it.  A channel that the affinity cache prefers does not: the
distributor looks at its status, its paths and its groups, and not at its breaker.
-/

namespace StuHelper.Routing

open Lib List

variable {request : Request} {world : Nat → Happening} {context : Context} {id : Int}

def Request.Cool (request : Request) (world : Nat → Happening) (selectedAt : Nat)
    (channelID : Int) : Prop :=
  ¬request.Cooling (world selectedAt).moment channelID

theorem cacheGetChannel_id {moment : Moment} {channel : Channel}
    (found : Request.cacheGetChannel moment id = some channel) : channel.id = id := by
  rw [Request.cacheGetChannel] at found
  cases cached : moment.cache with
  | some cache =>
    simp only [cached] at found
    exact cache.keyed found
  | none =>
    simp only [cached] at found
    exact findChannel_id found

/-- The first channel is not cooling down, unless it is preferred, nor is a later one. -/
theorem distribute_cool (unpinned : request.specificChannelID = none)
    (warm : ∀ id ∈ (world 0).preferred, request.usablePreferred (world 0) context id ≠ none →
      request.Cool world 0 id) {rounds : Nat} {ready : Request.Ready}
    (distributed : request.distribute world context rounds = some (.ok ready)) :
    request.Cool world ready.selectedAt ready.context.channelID := by
  obtain ⟨state, cool, rfl⟩ := @Request.distribute_ready request world context
    (fun state => request.Cool world state.selectedAt state.channel.id) rounds ready
    (fun used first => by
      rcases Request.firstChannel_cases first with ⟨pinned, -⟩ | ⟨id, preferred, usable⟩ |
        ⟨skipRetry, selected⟩
      · rw [unpinned] at pinned
        cases pinned
      · rw [cacheGetChannel_id (Request.usablePreferred_some usable).1]
        apply warm id preferred
        rw [usable]
        exact Option.some_ne_none used
      · exact (selected_notMem (Request.selectFirst_ok selected).1).2)
    (fun state next _ again => by
      obtain ⟨_, _, found, rfl⟩ := Request.setupRound_again again
      exact (selected_notMem found).2)
    distributed
  exact cool

/-- The attempts so far, and the channel that is to be attempted next. -/
structure RelayState.Cool (request : Request) (world : Nat → Happening) (state : RelayState) :
    Prop where
  attempts : ∀ attempt ∈ state.attempts, request.Cool world attempt.selectedAt attempt.channelID
  current : ∀ id ∈ state.current, request.Cool world state.selectedAt id

theorem RelayState.Cool.concat {state : RelayState} (cool : state.Cool request world)
    (current : id ∈ state.current) (happening : Happening) :
    ∀ attempt ∈ state.attempts ++ [(state.arrived id).attemptOf happening id],
      request.Cool world attempt.selectedAt attempt.channelID := by
  intro attempt member
  rw [mem_append, mem_singleton] at member
  cases member with
  | inl earlier => exact cool.attempts attempt earlier
  | inr last =>
    rw [last]
    exact cool.current id current

theorem relayRound_cool {state next : RelayState} (cool : state.Cool request world)
    (again : request.relayRound world state = .again next) : next.Cool request world := by
  rcases Request.relayRound_again again with ⟨id, current, attempts⟩ |
    ⟨id, failed, channel, -, found, rfl⟩
  · obtain ⟨-, _, _, _, -, -, rfl⟩ := Request.attempt_again attempts
    exact ⟨cool.concat current (world state.clock), nofun⟩
  · refine ⟨cool.attempts, ?_⟩
    rintro _ ⟨⟩
    exact (selected_notMem found).2

/-- For every request that is not pinned, every history of the breakers before each of its
selections and whatever fails: if a preferred channel that can be used is not cooling down, then no
attempt, be it the first or a retry, is sent to a channel that was cooling down when it was
selected. -/
theorem attempts_not_cooling (request : Request) (world : Nat → Happening)
    (unpinned : request.specificChannelID = none) (context : Context)
    (warm : ∀ id ∈ (world 0).preferred, request.usablePreferred (world 0) context id ≠ none →
      ¬request.Cooling (world 0).moment id) (rounds : Nat) (ready : Request.Ready)
    (distributed : request.distribute world context rounds = some (.ok ready)) :
    (∀ state, Reaches (request.relayRound world) (request.relayStart ready) state →
      ∀ attempt ∈ state.attempts,
        ¬request.Cooling (world attempt.selectedAt).moment attempt.channelID) ∧
    ∀ rounds relayed, request.relay world ready rounds = some relayed →
      ∀ attempt ∈ relayed.attempts,
        ¬request.Cooling (world attempt.selectedAt).moment attempt.channelID := by
  have initially : (request.relayStart ready).Cool request world := by
    refine ⟨forall_mem_nil _, ?_⟩
    rintro _ ⟨⟩
    exact distribute_cool unpinned warm distributed
  have reached : ∀ state, Reaches (request.relayRound world) (request.relayStart ready) state →
      state.Cool request world := by
    intro state reaches
    exact reaches.invariant (fun _ _ cool again => relayRound_cool cool again) initially
  refine ⟨fun state reaches => (reached state reaches).attempts, ?_⟩
  intro rounds relayed ended
  obtain ⟨last, reaches, stop⟩ := exists_reaches_stop ended
  have cool := reached last reaches
  rcases (Request.relayRound_stop stop).2 with ⟨same, -⟩ | ⟨id, current, -, -, more⟩
  · rw [same]
    exact cool.attempts
  · rw [more]
    exact cool.concat current (world last.clock)

/-- The key of the first channel has been refused three times in a row. -/
def refused : List BreakerEvent :=
  [.reportRelayResult 0 1 (some invalidKey), .reportRelayResult 0 1 (some invalidKey),
    .reportRelayResult 0 1 (some invalidKey)]

/-- A second later, with what the affinity cache prefers. -/
def secondLater (preferred : Option Int) : Nat → Happening := fun _ =>
  { moment := { database := twoChannels, now := 1000000000, history := refused }
    preferred := preferred }

theorem attempts_not_cooling_secondChannel :
    (retryOnce none).Cooling (secondLater (some 2) 0).moment 1 ∧
      ∀ rounds relayed, (retryOnce none).relay (secondLater (some 2))
        ⟨2, 0, { tokenGroup := "default", usingGroup := "default", channelID := 2 }⟩ rounds =
          some relayed → ∀ attempt ∈ relayed.attempts, ¬(retryOnce none).Cooling
          (secondLater (some 2) attempt.selectedAt).moment attempt.channelID :=
  ⟨by decide +kernel, (attempts_not_cooling (retryOnce none) (secondLater (some 2)) rfl
    { tokenGroup := "default", usingGroup := "default" }
    (by
      rintro _ ⟨⟩ -
      decide +kernel)
    1 ⟨2, 0, { tokenGroup := "default", usingGroup := "default", channelID := 2 }⟩
    (by decide +kernel)).2⟩

/-- A preferred channel is attempted while it is cooling down. -/
theorem preferred_channel_is_cooling :
    ∃ ready relayed, (retryOnce none).distribute (secondLater (some 1))
        { tokenGroup := "default", usingGroup := "default" } 1 = some (.ok ready) ∧
      (retryOnce none).relay (secondLater (some 1)) ready 1 = some relayed ∧
      ∃ attempt ∈ relayed.attempts, (retryOnce none).Cooling
        (secondLater (some 1) attempt.selectedAt).moment attempt.channelID := by
  refine ⟨⟨2, 0, { tokenGroup := "default", usingGroup := "default", channelID := 1 }⟩, ?_⟩
  have computed : ((retryOnce none).relay (secondLater (some 1))
      ⟨2, 0, { tokenGroup := "default", usingGroup := "default", channelID := 1 }⟩ 1).map
        Relayed.attempts = some [⟨1, "default", 0, none, false⟩] := by decide +kernel
  obtain ⟨relayed, ended, attempts⟩ := Option.map_eq_some_iff.mp computed
  refine ⟨relayed, by decide +kernel, ended, ?_⟩
  rw [attempts]
  exact ⟨_, mem_singleton_self _, by decide +kernel⟩

end StuHelper.Routing
