import StuHelper.Routing.RelayLoop

/-!
# Errors that are not retried

No other channel may be attempted after an error when a byte of the response has been written, when
the request is pinned, when the error is marked, or when its status is 504.  The first always stops
the loop.  The others stop it unless the error is a channel error: `ClassifyRelayError` looks at
the code before the mark and the status, and `shouldRetry` retries a channel error before it looks
whether the request is pinned.
-/

namespace StuHelper.Routing

open Lib List

/-- No other channel may be attempted after this error.  The error is the normalized one: it keeps
the mark, and has one if it is about a violation. -/
def Request.Forbids (request : Request) (error : RelayError) : Prop :=
  request.specificChannelID.isSome = true ∨ error.skipRetry = true ∨ error.statusCode = 504

/-- An attempt after which there may be no other. -/
def Request.Final (request : Request) (attempt : Attempt) : Prop :=
  ∃ raw ∈ attempt.error, attempt.committed = true ∨ request.Forbids raw.normalizeViolationFeeError

section Decisions

variable {request : Request} {happening : Happening} {context : Context} {error : RelayError}

namespace Request

theorem not_retryable_of_forbids (ordinary : error.isChannelError = false)
    (skipped : error.skipRetry = true ∨ error.statusCode = 504) :
    (request.settings.classifyRelayError error).retryable = false := by
  rw [Settings.classifyRelayError, if_neg (Bool.eq_false_iff.mp ordinary), if_pos]
  refine skipped.imp_right fun status => Or.inr ?_
  rw [isAlwaysSkipRetryStatusCode, status]
  rfl

theorem shouldRetry_true {retryTimes : Int}
    (retries : (request.shouldRetry happening context error retryTimes).1 = true) :
    context.committed = false ∧ (request.Forbids error → error.isChannelError = true) := by
  rw [shouldRetry] at retries
  cases committed : context.committed with
  | true =>
    rw [committed] at retries
    cases retries
  | false =>
    refine ⟨rfl, fun forbids => ?_⟩
    rw [committed, if_neg Bool.false_ne_true] at retries
    cases ordinary : error.isChannelError with
    | true => rfl
    | false =>
      cases passes : request.passAffinity happening context error retryTimes with
      | none =>
        rw [passes] at retries
        cases retries
      | some =>
        simp only [passes, forceRetry_eq, ordinary] at retries
        rw [if_neg Bool.false_ne_true] at retries
        cases forbids with
        | inl pinned =>
          rw [Option.isSome_iff_ne_none] at pinned
          split at retries
          · cases retries
          · split at retries
            · cases retries
            · exact absurd (Option.isNone_iff_eq_none.mp retries) pinned
        | inr skipped =>
          rw [not_retryable_of_forbids ordinary skipped, if_pos Bool.false_ne_true] at retries
          cases retries

theorem shouldRetryAutoGroupRelayError_true
    (retries : (request.shouldRetryAutoGroupRelayError happening context error).1 = true) :
    context.committed = false ∧ (request.Forbids error → error.isChannelError = true) := by
  rw [shouldRetryAutoGroupRelayError] at retries
  split at retries
  · cases retries
  rename_i free
  rw [not_or] at free
  refine ⟨Bool.eq_false_iff.mpr free.1, fun forbids => ?_⟩
  have skipped : error.skipRetry = true ∨ error.statusCode = 504 := forbids.resolve_left free.2
  cases ordinary : error.isChannelError with
  | true => rfl
  | false =>
    cases passes : request.passAffinity happening context error 1 with
    | none =>
      rw [passes] at retries
      cases retries
    | some passed =>
      simp only [passes, forceRetry_eq, ordinary,
        not_retryable_of_forbids ordinary skipped] at retries
      split at retries
      · cases retries
      rename_i unmarked
      rw [not_or] at unmarked
      have status := skipped.resolve_left unmarked.1
      rw [if_neg Bool.false_ne_true, status] at retries
      cases retries

end Request

end Decisions

section Loop

variable {request : Request} {world : Nat → Happening}

/-- The attempts after which the loop has gone on. -/
theorem relayRound_attempts
    (ordinary : ∀ step, ∀ raw ∈ (world step).handlerError,
      request.Forbids raw.normalizeViolationFeeError →
        raw.normalizeViolationFeeError.isChannelError = false)
    {state next : RelayState} (before : ∀ attempt ∈ state.attempts, ¬request.Final attempt)
    (again : request.relayRound world state = .again next) :
    ∀ attempt ∈ next.attempts, ¬request.Final attempt := by
  rcases Request.relayRound_again again with ⟨id, -, attempts⟩ | ⟨id, failed, channel, -, -, rfl⟩
  · obtain ⟨-, raw, _, _, handled, decided, rfl⟩ := Request.attempt_again attempts
    -- the loop goes on only if nothing has been written, and after an error that forbids it
    -- only if that is a channel error
    obtain ⟨uncommitted, forbids⟩ : ((state.arrived id).called (world state.clock)).committed =
        false ∧ (request.Forbids raw.normalizeViolationFeeError →
          raw.normalizeViolationFeeError.isChannelError = true) := by
      rcases Request.afterError_cases decided with ⟨retries, -⟩ | ⟨_, -, -, retries, -⟩
      · exact Request.shouldRetry_true retries
      · have decision := Request.shouldRetryAutoGroupRelayError_true retries
        exact decision
    intro attempt member
    cases mem_append.mp member with
    | inl earlier => exact before attempt earlier
    | inr last =>
      rw [mem_singleton.mp last]
      rintro ⟨other, same, final⟩
      rw [RelayState.attemptOf, handled] at same
      cases same
      cases final with
      | inl committed => exact Bool.false_ne_true (uncommitted.symm.trans committed)
      | inr forbidden =>
        have plain := ordinary state.clock raw handled forbidden
        exact Bool.false_ne_true (plain.symm.trans (forbids forbidden))
  · exact before

/-- Whatever the upstreams answer and whatever happens to the channels in between: if no error of
a request that is pinned, no marked error and no error with the status 504 is a channel error, then
the loop does not go on after such an error, nor after a byte has been written, and in the attempts
that are made there is none after it. -/
theorem relay_stops_after_final (request : Request) (world : Nat → Happening)
    (ready : Request.Ready) (ordinary : ∀ step, ∀ raw ∈ (world step).handlerError,
      request.Forbids raw.normalizeViolationFeeError →
        raw.normalizeViolationFeeError.isChannelError = false) :
    (∀ state, Reaches (request.relayRound world) (request.relayStart ready) state →
      ∀ attempt ∈ state.attempts, ¬request.Final attempt) ∧
    ∀ rounds relayed, request.relay world ready rounds = some relayed →
      ∀ attempt ∈ relayed.attempts.dropLast, ¬request.Final attempt := by
  have reached : ∀ state, Reaches (request.relayRound world) (request.relayStart ready) state →
      ∀ attempt ∈ state.attempts, ¬request.Final attempt := by
    intro state reaches
    exact reaches.invariant (fun _ _ before again => relayRound_attempts ordinary before again)
      (forall_mem_nil _)
  refine ⟨reached, fun rounds relayed ended attempt member => ?_⟩
  obtain ⟨last, reaches, stop⟩ := exists_reaches_stop ended
  apply reached last reaches
  rcases (Request.relayRound_stop stop).2 with ⟨same, -⟩ | ⟨id, -, -, -, more⟩
  · rw [same] at member
    exact dropLast_subset _ member
  · rw [more, dropLast_concat] at member
    exact member

end Loop

/-! ## Two channels -/

def twoChannels : Database where
  channels := [{ id := 1, models := "gpt-4o" }, { id := 2, models := "gpt-4o" }]
  nodup := by decide
  positive := by decide
  abilities := [⟨"default", "gpt-4o", 1, true, 0, 0⟩, ⟨"default", "gpt-4o", 2, true, 0, 0⟩]

/-- The first attempt fails with an error. -/
def failsOnce (error : RelayError) (step : Nat) : Happening :=
  { moment := { database := twoChannels }
    handlerError := if step = 1 then some error else none }

def firstReady : Request.Ready :=
  ⟨1, 0, { tokenGroup := "default", usingGroup := "default", channelID := 1 }⟩

def retryOnce (specificChannelID : Option String) : Request :=
  { settings := { retryTimes := 1 }
    modelName := "gpt-4o"
    specificChannelID := specificChannelID }

theorem forall_failsOnce {property : RelayError → Prop} {error : RelayError}
    (holds : property error) (step : Nat) :
    ∀ raw ∈ (failsOnce error step).handlerError, property raw := by
  rw [failsOnce]
  by_cases first : step = 1
  · simp only [if_pos first]
    rintro _ ⟨⟩
    exact holds
  · simp only [if_neg first]
    exact nofun

def gatewayTimeout : RelayError := { errorCode := "bad_response_status_code", statusCode := 504 }

theorem relay_stops_after_final_gatewayTimeout :
    (∀ state, Reaches ((retryOnce none).relayRound (failsOnce gatewayTimeout))
        ((retryOnce none).relayStart firstReady) state →
      ∀ attempt ∈ state.attempts, ¬(retryOnce none).Final attempt) ∧ ∀ rounds relayed,
      (retryOnce none).relay (failsOnce gatewayTimeout) firstReady rounds = some relayed →
      ∀ attempt ∈ relayed.attempts.dropLast, ¬(retryOnce none).Final attempt :=
  relay_stops_after_final (retryOnce none) _ firstReady
    (forall_failsOnce fun _ => by decide +kernel)

/-- The key of a channel cannot be read. -/
def invalidKey : RelayError := { errorCode := "channel:invalid_key" }

/-- The model mapping of a channel cannot be read. -/
def modelMappedError : RelayError :=
  { errorCode := "channel:model_mapped_error", skipRetry := true }

/-- A stream has broken off. -/
def streamInterrupted : RelayError :=
  { errorCode := "channel:stream_interrupted", statusCode := 504 }

/-- A channel error is retried even if the request is pinned to the channel, if the error is
marked, and if its status is 504. -/
theorem channel_error_is_retried :
    (∃ relayed, (retryOnce (some "1")).relay (failsOnce invalidKey) firstReady 3 = some relayed ∧
      ∃ attempt ∈ relayed.attempts.dropLast, (retryOnce (some "1")).Final attempt) ∧
    (∃ relayed, (retryOnce none).relay (failsOnce modelMappedError) firstReady 3 = some relayed ∧
      ∃ attempt ∈ relayed.attempts.dropLast, (retryOnce none).Final attempt) ∧
    ∃ relayed, (retryOnce none).relay (failsOnce streamInterrupted) firstReady 3 = some relayed ∧
      ∃ attempt ∈ relayed.attempts.dropLast, (retryOnce none).Final attempt := by
  have retried : ∀ (request : Request) (error : RelayError),
      (request.relay (failsOnce error) firstReady 3).map (·.attempts.dropLast) =
        some [⟨1, "default", 0, some error, false⟩] →
      request.Forbids error.normalizeViolationFeeError →
      ∃ relayed, request.relay (failsOnce error) firstReady 3 = some relayed ∧
        ∃ attempt ∈ relayed.attempts.dropLast, request.Final attempt := by
    intro request error computed forbids
    obtain ⟨relayed, ended, attempts⟩ := Option.map_eq_some_iff.mp computed
    refine ⟨relayed, ended, ?_⟩
    rw [attempts]
    exact ⟨_, mem_singleton_self _, error, rfl, Or.inr forbids⟩
  refine ⟨retried _ _ (by decide +kernel) (Or.inl rfl), retried _ _ (by decide +kernel) ?_,
    retried _ _ (by decide +kernel) ?_⟩
  · exact Or.inr (Or.inl (by decide +kernel))
  · exact Or.inr (Or.inr (by decide +kernel))

end StuHelper.Routing
