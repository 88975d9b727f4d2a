import StuHelper.Lib.Float64
import StuHelper.Lib.Run
import StuHelper.Routing.Retry

/-!
# The circuit breakers of the channels

Each channel has a breaker.  Failures in a sliding window, or a streak of fatal ones, trip it: it is
open until its cooldown is over, then half-open, and closed again after some successes in a row.
The channels whose breakers are open are excluded when a channel is picked.

Times are in nanoseconds.
-/

namespace StuHelper.Routing

open Lib Float64

/-- The configuration, as `InitChannelBreakerConfig` leaves it. -/
structure BreakerConfig where
  enabled : Bool := true
  window : Nat := 120000000000
  minSamples : Nat := 10
  tripScorePct : Nat := 50
  consecFatal : Nat := 3
  cooldown : Nat := 60000000000
  maxCooldown : Nat := 1800000000000
  halfOpenProbes : Nat := 3
  deriving DecidableEq, Repr

inductive BreakerState where
  | closed
  | opened
  | halfOpen
  deriving DecidableEq, Repr

structure BreakerBucket where
  epoch : Int := 0
  total : Nat := 0
  fatal : Nat := 0
  transient : Nat := 0

structure ChannelBreaker where
  state : BreakerState := .closed
  /-- The slots of the ring. -/
  buckets : Fin 12 → BreakerBucket := fun _ => {}
  openUntil : Int := 0
  cooldown : Nat
  consecFatal : Nat := 0
  halfOpenSuccess : Nat := 0

namespace BreakerConfig

variable (config : BreakerConfig)

def bucketEpoch (now : Int) : Int := now / ((config.window / 12 : Nat) : Int)

/-- The breaker that `getBreaker` creates. -/
def newBreaker : ChannelBreaker := { cooldown := config.cooldown }

/-- The score of a window, in `float64`, reaches the threshold.  The counts are below 2 ^ 53, and no
multiplication is fused with an addition. -/
def scoreTrips (total fatal transient : Nat) : Bool :=
  let score := nearest (nearest (fatal + nearest (transient * nearest (3 / 10))) / total)
  nearest (score * 100) ≥ config.tripScorePct

-- The score is 6 % but for the rounding.
example : scoreTrips { tripScorePct := 6 } 15 0 3 = false := by decide +kernel

end BreakerConfig

namespace ChannelBreaker

variable (config : BreakerConfig) (breaker : ChannelBreaker)

def recordLocked (now : Int) (success fatal : Bool) : ChannelBreaker :=
  let epoch := config.bucketEpoch now
  let slot := Fin.ofNat 12 (epoch % 12).toNat
  let bucket := if (breaker.buckets slot).epoch ≠ epoch then { epoch := epoch }
    else breaker.buckets slot
  { breaker with
    buckets := Function.update breaker.buckets slot
      { bucket with
        total := bucket.total + 1
        fatal := bucket.fatal + (!success && fatal).toNat
        transient := bucket.transient + (!success && !fatal).toNat } }

/-- The buckets of `windowLocked`. -/
def windowLocked (now : Int) : List BreakerBucket :=
  ((List.finRange 12).map breaker.buckets).filter fun bucket =>
    config.bucketEpoch now - 11 ≤ bucket.epoch

def shouldTripLocked (now : Int) : Bool :=
  if breaker.consecFatal ≥ config.consecFatal then true
  else
    let window := breaker.windowLocked config now
    let total := (window.map BreakerBucket.total).sum
    let fatal := (window.map BreakerBucket.fatal).sum
    let transient := (window.map BreakerBucket.transient).sum
    if total < config.minSamples then false
    else config.scoreTrips total fatal transient

def tripLocked (now : Int) : ChannelBreaker :=
  { breaker with
    state := .opened
    openUntil := now + breaker.cooldown
    cooldown := min (breaker.cooldown * 2) config.maxCooldown
    halfOpenSuccess := 0 }

def report (now : Int) (success fatal : Bool) : ChannelBreaker :=
  let recorded := breaker.recordLocked config now success fatal
  let counted :=
    { recorded with
      consecFatal := if success then 0
        else if fatal then recorded.consecFatal + 1 else recorded.consecFatal }
  match counted.state with
  | .halfOpen =>
    if success then
      if counted.halfOpenSuccess + 1 ≥ config.halfOpenProbes then
        { counted with
          state := .closed
          cooldown := config.cooldown
          consecFatal := 0
          halfOpenSuccess := counted.halfOpenSuccess + 1
          buckets := fun _ => {} }
      else { counted with halfOpenSuccess := counted.halfOpenSuccess + 1 }
    else counted.tripLocked config now
  | .closed =>
    if counted.shouldTripLocked config now then
      { counted with cooldown := config.cooldown }.tripLocked config now
    else counted
  | .opened => counted

/-- `evalLocked`: the breaker afterwards. -/
def evalLocked (now : Int) : ChannelBreaker :=
  if breaker.state = .opened ∧ breaker.openUntil ≤ now then
    { breaker with state := .halfOpen, halfOpenSuccess := 0 }
  else breaker

end ChannelBreaker

/-! ## All breakers -/

/-- `breakers`: the keys of the map, and the breaker of each. -/
structure Breakers where
  ids : List Int := []
  breaker : Int → ChannelBreaker

namespace Breakers

variable (config : BreakerConfig) (breakers : Breakers)

/-- `getBreaker` and `report`. -/
def report (now channelID : Int) (success fatal : Bool) : Breakers :=
  let current := if channelID ∈ breakers.ids then breakers.breaker channelID else config.newBreaker
  { ids := if channelID ∈ breakers.ids then breakers.ids else breakers.ids ++ [channelID]
    breaker := Function.update breakers.breaker channelID
      (current.report config now success fatal) }

def reportRelayResult (settings : Settings) (now channelID : Int) (error : Option RelayError) :
    Breakers :=
  if ¬config.enabled ∨ channelID ≤ 0 then breakers
  else
    match error with
    | none => breakers.report config now channelID true false
    | some error =>
      if (settings.classifyRelayError error).channelSide then
        breakers.report config now channelID false true
      else if (settings.classifyRelayError error).transient then
        breakers.report config now channelID false false
      else breakers

/-- `BreakerOpenChannelIDs`: the breakers afterwards. -/
def evaluated (now : Int) : Breakers :=
  { breakers with breaker := fun id => (breakers.breaker id).evalLocked now }

/-- `BreakerOpenChannelIDs`: the channels. -/
def breakerOpenChannelIDs (now : Int) : List Int :=
  if ¬config.enabled then []
  else breakers.ids.filter fun id => ((breakers.breaker id).evalLocked now).state = .opened

def resetChannelBreaker (channelID : Int) : Breakers :=
  { breakers with ids := breakers.ids.filter (· ≠ channelID) }

/-- The channel is cooling down: its breaker is open, and the cooldown is not over. -/
def Cooling (now channelID : Int) : Prop :=
  channelID ∈ breakers.ids ∧ (breakers.breaker channelID).state = .opened ∧
    now < (breakers.breaker channelID).openUntil

instance (now channelID : Int) : Decidable (breakers.Cooling now channelID) :=
  inferInstanceAs (Decidable (_ ∧ _ ∧ _))

end Breakers

/-! ## Histories -/

/-- What happens to the breakers. -/
inductive BreakerEvent where
  | reportRelayResult (now channelID : Int) (error : Option RelayError)
  | breakerOpenChannelIDs (now : Int)
  | resetChannelBreaker (channelID : Int)

def Breakers.step (config : BreakerConfig) (settings : Settings) (breakers : Breakers) :
    BreakerEvent → Breakers
  | .reportRelayResult now channelID error =>
    breakers.reportRelayResult config settings now channelID error
  | .breakerOpenChannelIDs now => if config.enabled then breakers.evaluated now else breakers
  | .resetChannelBreaker channelID => breakers.resetChannelBreaker channelID

def breakersAfter (config : BreakerConfig) (settings : Settings) (history : List BreakerEvent) :
    Breakers :=
  run (Breakers.step config settings) { breaker := fun _ => config.newBreaker } history

theorem breakersAfter_disabled {config : BreakerConfig} (off : config.enabled = false)
    (settings : Settings) (history : List BreakerEvent) :
    (breakersAfter config settings history).ids = [] := by
  apply @run_invariant_of_all _ _ (Breakers.step config settings)
    (fun breakers => breakers.ids = [])
  · intro breakers event none
    cases event with
    | reportRelayResult now channelID error =>
      have unchanged : breakers.reportRelayResult config settings now channelID error = breakers :=
        if_pos (Or.inl (Bool.eq_false_iff.mp off))
      rw [Breakers.step, unchanged]
      exact none
    | breakerOpenChannelIDs =>
      rw [Breakers.step, if_neg (Bool.eq_false_iff.mp off)]
      exact none
    | resetChannelBreaker =>
      rw [Breakers.step, Breakers.resetChannelBreaker, none]
      rfl
  · rfl

/-- After every history, the channels that are cooling down are among those that
`BreakerOpenChannelIDs` returns. -/
theorem mem_breakerOpenChannelIDs {config : BreakerConfig} {settings : Settings}
    {history : List BreakerEvent} {now channelID : Int}
    (cooling : (breakersAfter config settings history).Cooling now channelID) :
    channelID ∈ (breakersAfter config settings history).breakerOpenChannelIDs config now := by
  obtain ⟨member, isOpen, later⟩ := cooling
  cases on : config.enabled with
  | false =>
    rw [breakersAfter_disabled on] at member
    cases member
  | true =>
    have waiting : ¬(((breakersAfter config settings history).breaker channelID).state = .opened ∧
        ((breakersAfter config settings history).breaker channelID).openUntil ≤ now) :=
      fun expired => absurd later (Int.not_lt.mpr expired.2)
    rw [Breakers.breakerOpenChannelIDs, on, if_neg (not_not_intro rfl), List.mem_filter,
      ChannelBreaker.evalLocked, if_neg waiting]
    exact ⟨member, decide_eq_true isOpen⟩

end StuHelper.Routing
