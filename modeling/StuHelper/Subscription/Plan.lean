import StuHelper.Lib.Calendar
import StuHelper.Lib.Text

/-!
# Subscription plans and their clocks

A plan fixes how long a subscription lasts and when its quota starts over.  Times
are Unix seconds.  The server's local time zone is a parameter with a constant
offset from UTC, and durations are 64-bit nanosecond counts that wrap around, as
`time.Duration` does.
-/

namespace StuHelper.Subscription

open Lib

/-! ## Local time -/

/-- The server's time zone, in seconds east of UTC.  The offset is fixed; zones whose offset changes
are left out. -/
structure Location where
  offset : Int
  deriving DecidableEq, Repr

namespace Location

/-- Number of the local day a Unix time falls on. -/
def dayOf (loc : Location) (unix : Int) : Int :=
  (unix + loc.offset) / 86400

/-- Seconds since local midnight. -/
def clockOf (loc : Location) (unix : Int) : Int :=
  (unix + loc.offset) % 86400

/-- `time.Date` of a local day and a time of day. -/
def date (loc : Location) (day clock : Int) : Int :=
  day * 86400 + clock - loc.offset

/-- `time.Time.AddDate(0, months, 0)`: the same day of another month, where days
past the end of that month run on into the following one. -/
def addMonths (loc : Location) (unix months : Int) : Int :=
  let day := loc.dayOf unix
  let month := Calendar.monthOf day
  loc.date (Calendar.monthStart (month + months) + (day - Calendar.monthStart month))
    (loc.clockOf unix)

end Location

/-- Two's complement wrap-around of 64-bit arithmetic. -/
def wrapInt64 (value : Int) : Int := value.bmod (2 ^ 64)

/-- `t.Add(time.Duration(count) * unit)` in whole seconds, the unit given in
nanoseconds. -/
def addDuration (unix count unit : Int) : Int :=
  unix + wrapInt64 (count * unit) / 1000000000

/-- Nanoseconds of `time.Second`. -/
def second : Int := 1000000000

/-- Nanoseconds of `time.Hour`. -/
def hour : Int := 3600 * second

/-! ## Plans -/

/-- `duration_unit`; any other text is refused. -/
inductive DurationUnit where
  | year | month | day | hour | custom
  | other (text : String)
  deriving DecidableEq, Repr

/-- `quota_reset_period` as read by `NormalizeResetPeriod`. -/
inductive ResetPeriod where
  | never | daily | weekly | monthly | custom
  deriving DecidableEq, Repr

/-- `NormalizeResetPeriod`: every text that names no period means no reset. -/
def normalizeResetPeriod (period : String) : ResetPeriod :=
  let name := Text.trimSpace period
  if name = "daily" then .daily
  else if name = "weekly" then .weekly
  else if name = "monthly" then .monthly
  else if name = "custom" then .custom
  else .never

/-- `SubscriptionPlan`, without the fields that only the shop pages show. -/
structure SubscriptionPlan where
  id : Int
  priceAmount : ℚ := 0
  durationUnit : DurationUnit := .month
  durationValue : Int := 1
  customSeconds : Int := 0
  enabled : Bool := true
  allowBalancePay : Option Bool := none
  allowWalletOverflow : Option Bool := none
  maxPurchasePerUser : Int := 0
  upgradeGroup : String := ""
  downgradeGroup : String := ""
  totalAmount : Int := 0
  quotaResetPeriod : String := "never"
  quotaResetCustomSeconds : Int := 0
  modelLimitsEnabled : Bool := false
  modelLimits : String := ""

/-! ## Model limits -/

/-- `normalizeSubscriptionModelLimits`: the names of a comma separated list, each
once and in order. -/
def normalizeSubscriptionModelLimits (enabled : Bool) (csv : String) : List String :=
  if !enabled || Text.trimSpace csv = "" then []
  else
    let names := (Text.split ',' csv.toList).map fun part =>
      String.ofList (Text.trim part)
    (names.filter fun name => name ≠ "").eraseDups

namespace SubscriptionPlan

def getModelLimits (plan : SubscriptionPlan) : List String :=
  normalizeSubscriptionModelLimits plan.modelLimitsEnabled plan.modelLimits

/-- `IsModelAllowed`: a plan without limits allows every model. -/
def isModelAllowed (plan : SubscriptionPlan) (modelName : String) : Bool :=
  let modelName := Text.trimSpace modelName
  if !plan.modelLimitsEnabled || modelName = "" then true
  else if plan.getModelLimits = [] then true
  else plan.getModelLimits.contains modelName

/-- `NormalizeDefaults`: a plan that leaves a switch open has it on. -/
def normalizeDefaults (plan : SubscriptionPlan) : SubscriptionPlan :=
  { plan with
    allowBalancePay := some (plan.allowBalancePay.getD true)
    allowWalletOverflow := some (plan.allowWalletOverflow.getD true) }

end SubscriptionPlan

/-! ## End of a subscription and quota boundaries -/

/-- Why `calcPlanEndTime` refuses a plan. -/
inductive DurationError where
  | durationValueNotPositive
  | customSecondsNotPositive
  | invalidDurationUnit (text : String)
  deriving DecidableEq, Repr

def calcPlanEndTime (loc : Location) (start : Int) (plan : SubscriptionPlan) :
    Except DurationError Int :=
  if plan.durationValue ≤ 0 ∧ plan.durationUnit ≠ .custom then
    .error .durationValueNotPositive
  else
    match plan.durationUnit with
    | .year => .ok (loc.addMonths start (12 * plan.durationValue))
    | .month => .ok (loc.addMonths start plan.durationValue)
    | .day => .ok (addDuration start (plan.durationValue * 24) hour)
    | .hour => .ok (addDuration start plan.durationValue hour)
    | .custom =>
      if plan.customSeconds ≤ 0 then .error .customSecondsNotPositive
      else .ok (addDuration start plan.customSeconds second)
    | .other text => .error (.invalidDurationUnit text)

/-- The duration of the plan fits into a `time.Duration`. -/
def SubscriptionPlan.DurationInRange (plan : SubscriptionPlan) : Prop :=
  (plan.durationUnit = .day → plan.durationValue * 24 * hour < 2 ^ 63) ∧
    (plan.durationUnit = .hour → plan.durationValue * hour < 2 ^ 63) ∧
    (plan.durationUnit = .custom → plan.customSeconds * second < 2 ^ 63)

instance (plan : SubscriptionPlan) : Decidable plan.DurationInRange :=
  inferInstanceAs (Decidable (_ ∧ _ ∧ _))

theorem wrapInt64_of_fits {value : Int} (low : 0 ≤ value) (high : value < 2 ^ 63) :
    wrapInt64 value = value := by
  rw [wrapInt64, Int.bmod_eq_of_le]
  · omega
  · omega

theorem lt_addDuration (unix : Int) {count unit : Int} (whole : second ≤ unit)
    (positive : 0 < count) (fits : count * unit < 2 ^ 63) : unix < addDuration unix count unit := by
  have least : second ≤ count * unit :=
    whole.trans (le_mul_of_one_le_left (by simp only [second] at whole; omega) positive)
  rw [addDuration, wrapInt64_of_fits (by simp only [second] at least; omega) fits]
  simp only [second] at least
  omega

theorem Location.lt_addMonths (loc : Location) (unix : Int) {months : Int}
    (positive : 0 < months) : unix < loc.addMonths unix months := by
  have later := Calendar.monthStart_strictMono
    (lt_add_of_pos_right (Calendar.monthOf (loc.dayOf unix)) positive)
  simp only [addMonths, date, clockOf]
  simp only [dayOf] at later ⊢
  omega

variable {plan : SubscriptionPlan}

theorem calcPlanEndTime_gt {loc : Location} {start endTime : Int} (fits : plan.DurationInRange)
    (ends : calcPlanEndTime loc start plan = .ok endTime) : start < endTime := by
  unfold calcPlanEndTime at ends
  split at ends
  · cases ends
  rename_i valid
  obtain ⟨day, hours, custom⟩ := fits
  split at ends
  next unit =>
    cases ends
    exact loc.lt_addMonths start (by simp [unit] at valid; omega)
  next unit =>
    cases ends
    exact loc.lt_addMonths start (by simp [unit] at valid; omega)
  next unit =>
    cases ends
    exact lt_addDuration start (by decide) (by simp [unit] at valid; omega) (day unit)
  next unit =>
    cases ends
    exact lt_addDuration start (by decide) (by simp [unit] at valid; omega) (hours unit)
  next unit =>
    split at ends
    · cases ends
    · cases ends
      exact lt_addDuration start le_rfl (by omega) (custom unit)
  · cases ends

/-- The first quota boundary after `base`, before it is cut off at the end of the
subscription: the next local midnight, the next Monday, the first of the next
month, or `base` plus the plan's own period. -/
def nextBoundary (loc : Location) (base : Int) (plan : SubscriptionPlan) : Option Int :=
  match normalizeResetPeriod plan.quotaResetPeriod with
  | .never => none
  | .daily => some (loc.date (loc.dayOf base + 1) 0)
  | .weekly =>
    -- 1 January 1970 was a Thursday; Sunday counts as day 7.
    let weekday := (loc.dayOf base + 4) % 7
    let weekday := if weekday = 0 then 7 else weekday
    some (loc.date (loc.dayOf base + (8 - weekday)) 0)
  | .monthly =>
    some (loc.date
      (Calendar.monthStart (Calendar.monthOf (loc.dayOf base) + 1)) 0)
  | .custom =>
    if plan.quotaResetCustomSeconds ≤ 0 then none
    else some (addDuration base plan.quotaResetCustomSeconds second)

/-- `calcNextResetTime`; 0 stands for no further reset. -/
def calcNextResetTime (loc : Location) (base : Int) (plan : SubscriptionPlan)
    (endUnix : Int) : Int :=
  match nextBoundary loc base plan with
  | none => 0
  | some next => if endUnix > 0 ∧ next > endUnix then 0 else next

/-- A custom reset period of at least one second, which the overflow of `time.Duration`
turns into less than that. -/
def SubscriptionPlan.stalls (plan : SubscriptionPlan) : Bool :=
  normalizeResetPeriod plan.quotaResetPeriod = .custom &&
    0 < plan.quotaResetCustomSeconds &&
    wrapInt64 (plan.quotaResetCustomSeconds * second) / 1000000000 = 0

/-- The boundaries of a plan that does not stall move in one direction: forward, or
backward when the custom period overflows. -/
theorem nextBoundary_moves (loc : Location) (moves : plan.stalls = false) :
    (∀ base next, nextBoundary loc base plan = some next → base < next) ∨
      (∀ base next, nextBoundary loc base plan = some next → next < base) := by
  simp only [nextBoundary]
  cases period : normalizeResetPeriod plan.quotaResetPeriod with
  | never => simp
  | daily =>
    left
    rintro base _ ⟨⟩
    simp only [Location.date, Location.dayOf]
    omega
  | weekly =>
    left
    rintro base _ ⟨⟩
    simp only [Location.date, Location.dayOf]
    split_ifs <;> omega
  | monthly =>
    left
    rintro base _ ⟨⟩
    have inside := (Calendar.monthOf_spec (loc.dayOf base)).2
    simp only [Location.date]
    simp only [Location.dayOf] at inside ⊢
    omega
  | custom =>
    simp only [SubscriptionPlan.stalls, period, decide_true, Bool.true_and,
      Bool.and_eq_false_iff, decide_eq_false_iff_not] at moves
    by_cases none : plan.quotaResetCustomSeconds ≤ 0
    · simp [none]
    simp only [none, if_false, addDuration, Option.some.injEq, forall_eq']
    have nonzero := moves.resolve_left (by omega)
    rcases lt_or_gt_of_ne nonzero with backward | forward
    · right
      omega
    · left
      omega

end StuHelper.Subscription
