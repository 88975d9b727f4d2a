import StuHelper.Lib.Sequence
import StuHelper.Subscription.RefundRatio

/-!
# Refund cycles and quota resets

A quota reset starts a new cycle at a local midnight, on a Monday, on the first of a
month, or one custom period after the last one.  The refund of a subscription counts its
cycles from `start_time` instead.  Both are walks along an increasing sequence of times,
so the number of cycles each has ended by now is the number of the last entry up to now,
and the refund is behind exactly when the two clocks read differently.
-/

namespace StuHelper.Subscription

open Lib Decimal Location List

/-! ## The resets up to now -/

/-- The boundaries after the start that the reset loop passes on its way to `now`. -/
def quotaResets (loc : Location) (plan : SubscriptionPlan) (endUnix start now : Int) : List Int :=
  ((loopStates (resetRound loc plan endUnix now) (now - start).toNat
    (start, calcNextResetTime loc start plan endUnix)).map Prod.fst).filter (start < ·)

section Resets

variable {loc : Location} {plan : SubscriptionPlan} {endUnix now : Int}

variable {times : Nat → Int} {last : Nat} {start : Int}

theorem quotaResets_length (strict : StrictMono times)
    (boundary : ∀ step, nextBoundary loc (times step) plan = some (times (step + 1)))
    (positive : 0 < times 0) (running : now < endUnix) (below : times last ≤ now)
    (above : now < times (last + 1)) :
    (quotaResets loc plan endUnix (times 0) now).length = last := by
  have traces : Traces (resetRound loc plan endUnix now)
      (fun step => (times step, calcNextResetTime loc (times step) plan endUnix)) last
      (times last, calcNextResetTime loc (times last) plan endUnix) := by
    constructor
    · intro step before
      have passed : times (step + 1) ≤ now := (strict.monotone before).trans below
      have later : times 0 < times (step + 1) := strict (Nat.zero_lt_succ step)
      have next : calcNextResetTime loc (times step) plan endUnix = times (step + 1) := by
        simp only [calcNextResetTime, boundary]
        exact if_neg (by omega)
      have due : 0 < times (step + 1) ∧ times (step + 1) ≤ now := ⟨by omega, passed⟩
      simp only [resetRound, next, due, and_self, if_true]
    · apply if_neg
      simp only [calcNextResetTime, boundary]
      split <;> omega
  have passed := traces.loopStates_eq (le_of_last strict below)
  rw [quotaResets, passed, filter_eq_self.mpr]
  · simp
  · intro time member
    simp only [map_map, mem_map, mem_range] at member
    obtain ⟨step, -, rfl⟩ := member
    exact decide_eq_true (strict (Nat.zero_lt_succ step))

theorem quotaResets_of_clock {mark index : Int → Int} (clock : GaloisConnection mark index)
    (strict : StrictMono mark)
    (boundary : ∀ step, nextBoundary loc (marksFrom mark index start step) plan =
      some (marksFrom mark index start (step + 1))) (positive : 0 < start) (started : start ≤ now)
    (running : now < endUnix) :
    ((quotaResets loc plan endUnix start now).length : Int) = index now - index start := by
  have last := marksFrom_last clock started
  have count := quotaResets_length (marksFrom_strictMono clock strict start) boundary positive
    running last.1 last.2
  have advanced := clock.monotone_u started
  rw [marksFrom] at count
  omega

/-- A plan whose custom period overflows to nothing or less never resets after the start. -/
theorem quotaResets_of_backward
    (backward : ∀ base next, nextBoundary loc base plan = some next → next ≤ base) :
    quotaResets loc plan endUnix start now = [] := by
  rw [quotaResets, filter_eq_nil_iff]
  intro time member
  obtain ⟨_, among, rfl⟩ := mem_map.mp member
  have next : ∀ base, 0 < calcNextResetTime loc base plan endUnix →
      calcNextResetTime loc base plan endUnix ≤ base := by
    intro base
    simp only [calcNextResetTime]
    cases found : nextBoundary loc base plan with
    | none => simp
    | some boundary =>
      have := backward base boundary found
      dsimp only
      split <;> omega
  -- No state of the loop has passed a boundary after the start or waits for one.
  have keeps : ∀ state later : Int × Int, (state.1 ≤ start ∧ (0 < state.2 → state.2 ≤ state.1)) →
      resetRound loc plan endUnix now state = .again later →
      (later.1 ≤ start ∧ (0 < later.2 → later.2 ≤ later.1)) := by
    rintro ⟨base, waiting⟩ later ⟨notAfter, waits⟩ decided
    simp only [resetRound] at decided
    split at decided
    next due =>
      cases decided
      exact ⟨(waits due.1).trans notAfter, next waiting⟩
    · cases decided
  have kept := loopStates_invariant keeps ?_ among
  · simpa using kept.1
  · exact ⟨le_refl start, next start⟩

end Resets

/-! ## The clocks of the reset periods -/

namespace Location

/-- Number of the local week a Unix time falls in; weeks start on Mondays. -/
def weekOf (loc : Location) (unix : Int) : Int := (loc.dayOf unix + 3) / 7

/-- Number of the local month a Unix time falls in. -/
def monthOf (loc : Location) (unix : Int) : Int := Calendar.monthOf (loc.dayOf unix)

/-- Seconds since the local week began. -/
def weekClockOf (loc : Location) (unix : Int) : Int :=
  unix - loc.date (7 * loc.weekOf unix - 3) 0

/-- Days since the local month began. -/
def dayInMonth (loc : Location) (unix : Int) : Int :=
  loc.dayOf unix - Calendar.monthStart (loc.monthOf unix)

/-- Seconds since the local month began. -/
def monthClockOf (loc : Location) (unix : Int) : Int :=
  unix - loc.date (Calendar.monthStart (loc.monthOf unix)) 0

variable (loc : Location)

theorem date_zero_le_iff (day unix : Int) : loc.date day 0 ≤ unix ↔ day ≤ loc.dayOf unix := by
  simp only [date, dayOf]
  omega

theorem dayClock : GaloisConnection (fun day => loc.date day 0) loc.dayOf :=
  loc.date_zero_le_iff

theorem weekClock : GaloisConnection (fun week => loc.date (7 * week - 3) 0) loc.weekOf := by
  intro week unix
  rw [date_zero_le_iff, weekOf]
  omega

theorem monthClock :
    GaloisConnection (fun month => loc.date (Calendar.monthStart month) 0) loc.monthOf := by
  intro month unix
  rw [date_zero_le_iff, monthOf]
  exact Calendar.monthStart_le_iff month (loc.dayOf unix)

theorem date_strictMono : StrictMono fun day => loc.date day 0 := by
  intro early late before
  simp only [date]
  omega

end Location

section Periods

variable {loc : Location} {plan : SubscriptionPlan}

/-- Whole seconds of the custom period as `time.Duration` holds it. -/
def SubscriptionPlan.customResetStep (plan : SubscriptionPlan) : Int :=
  wrapInt64 (plan.quotaResetCustomSeconds * second) / 1000000000

theorem nextBoundary_custom (custom : normalizeResetPeriod plan.quotaResetPeriod = .custom)
    (positive : 0 < plan.quotaResetCustomSeconds) (base : Int) :
    nextBoundary loc base plan = some (base + plan.customResetStep) := by
  simp only [nextBoundary, custom]
  exact if_neg (by omega)

theorem customClock {step : Int} (positive : 0 < step) (start : Int) :
    GaloisConnection (fun number => start + number * step) fun unix => (unix - start) / step := by
  intro number unix
  dsimp only
  rw [Int.le_ediv_iff_mul_le positive]
  omega

variable {endUnix start now : Int}

theorem quotaResets_count (positive : 0 < start) (started : start ≤ now) (running : now < endUnix) :
    ((quotaResets loc plan endUnix start now).length : Int) =
      match normalizeResetPeriod plan.quotaResetPeriod with
      | .never => 0
      | .daily => loc.dayOf now - loc.dayOf start
      | .weekly => loc.weekOf now - loc.weekOf start
      | .monthly => loc.monthOf now - loc.monthOf start
      | .custom =>
        if plan.quotaResetCustomSeconds ≤ 0 ∨ plan.customResetStep ≤ 0 then 0
        else (now - start) / plan.customResetStep := by
  cases period : normalizeResetPeriod plan.quotaResetPeriod with
  | never =>
    rw [quotaResets_of_backward]
    · rfl
    · intro base next found
      simp [nextBoundary, period] at found
  | daily =>
    apply quotaResets_of_clock loc.dayClock loc.date_strictMono _ positive started running
    intro step
    rw [marksFrom_succ loc.dayClock loc.date_strictMono]
    simp only [nextBoundary, period]
  | weekly =>
    have strict : StrictMono fun week => loc.date (7 * week - 3) 0 := by
      intro early late before
      exact loc.date_strictMono (by omega)
    apply quotaResets_of_clock loc.weekClock strict _ positive started running
    intro step
    rw [marksFrom_succ loc.weekClock strict]
    generalize marksFrom _ _ start step = base
    simp only [nextBoundary, period, Option.some.injEq, weekOf, date]
    split <;> omega
  | monthly =>
    have strict : StrictMono fun month => loc.date (Calendar.monthStart month) 0 :=
      loc.date_strictMono.comp Calendar.monthStart_strictMono
    apply quotaResets_of_clock loc.monthClock strict _ positive started running
    intro step
    rw [marksFrom_succ loc.monthClock strict]
    simp only [nextBoundary, period, monthOf]
  | custom =>
    dsimp only
    split
    next backward =>
      rw [quotaResets_of_backward]
      · rfl
      · intro base next found
        by_cases off : plan.quotaResetCustomSeconds ≤ 0
        · simp [nextBoundary, period, off] at found
        · rw [nextBoundary_custom period (by omega), Option.some.injEq] at found
          omega
    have stepPos : 0 < plan.customResetStep := by omega
    have strict : StrictMono fun number => start + number * plan.customResetStep := by
      intro early late before
      exact Int.add_lt_add_left (Int.mul_lt_mul_of_pos_right before stepPos) start
    have origin : (start - start) / plan.customResetStep = 0 := by simp
    apply (quotaResets_of_clock (customClock stepPos start) strict ?_ positive started
      running).trans
    · simp
    · intro step
      rw [nextBoundary_custom period (by omega)]
      cases step with
      | zero => simp [marksFrom]
      | succ =>
        simp only [marksFrom, origin, Option.some.injEq]
        push_cast
        ring

end Periods

/-! ## Cycles counted from the start -/

/-- A sum that does not run over is divided upwards. -/
theorem ceilDivideInt64_pos {value divisor : Int} (valueFits : value < 2 ^ 63)
    (divisorFits : divisor < 2 ^ 63) (counted : 0 < ceilDivideInt64 value divisor) :
    0 < divisor ∧ ceilDivideInt64 value divisor = (value - 1) / divisor + 1 := by
  unfold ceilDivideInt64 at counted ⊢
  split at counted
  · cases counted
  rename_i usable
  have divisorPos : 0 < divisor := by omega
  rw [if_neg usable]
  refine ⟨divisorPos, ?_⟩
  by_cases fits : value + divisor - 1 < 2 ^ 63
  · rw [wrapInt64_of_fits (by omega) fits, Int.tdiv_eq_ediv_of_nonneg (by omega),
      show value + divisor - 1 = value - 1 + 1 * divisor by omega,
      Int.add_mul_ediv_right _ _ (by omega)]
  · have negative : wrapInt64 (value + divisor - 1) ≤ 0 := by
      rw [wrapInt64, Int.bmod_def]
      omega
    have quotient := Int.tdiv_nonneg (neg_nonneg.mpr negative) divisorPos.le
    rw [Int.neg_tdiv] at quotient
    omega

/-- The starts of the cycles that `advance` cuts a subscription into. -/
def cyclesFrom (advance : Int → Int) (start : Int) (step : Nat) : Int := advance^[step] start

theorem cyclesFrom_succ (advance : Int → Int) (start : Int) (step : Nat) :
    cyclesFrom advance start (step + 1) = advance (cyclesFrom advance start step) :=
  Function.iterate_succ_apply' advance step start

section Calendar

variable {advance : Int → Int} {start limit : Int}

section

variable (forward : ∀ unix, unix < advance unix)

include forward

theorem cyclesFrom_strictMono : StrictMono (cyclesFrom advance start) := by
  apply strictMono_nat_of_lt_succ
  intro step
  rw [cyclesFrom_succ]
  exact forward _

theorem countSubscriptionCalendarCycles_eq {last : Nat}
    (below : cyclesFrom advance start last < limit)
    (above : limit ≤ cyclesFrom advance start (last + 1)) :
    countSubscriptionCalendarCycles start limit advance = some ((last + 1 : Nat) : Int) := by
  have strict : StrictMono (cyclesFrom advance start) := cyclesFrom_strictMono forward
  have begins : start < limit := (strict.monotone (Nat.zero_le last)).trans_lt below
  rw [countSubscriptionCalendarCycles, if_neg (by omega)]
  have traces : Traces (calendarCycleRound advance limit)
      (fun step => (cyclesFrom advance start step, (step : Int))) (last + 1)
      ((last + 1 : Nat) : Int) := by
    constructor
    · intro step before
      have begun : cyclesFrom advance start step < limit :=
        (strict.monotone (Nat.lt_add_one_iff.mp before)).trans_lt below
      have moves := not_le.mpr (forward (cyclesFrom advance start step))
      simp only [calendarCycleRound, begun, moves, if_true, if_false, cyclesFrom_succ]
      rfl
    · have ended := not_lt.mpr above
      simp only [calendarCycleRound, ended, if_false]
  apply traces.runLoop_eq
  have := le_of_last strict (Int.le_sub_one_of_lt below)
  change last ≤ (limit - 1 - start).toNat at this
  omega

theorem countCompletedSubscriptionCalendarCycles_eq {last : Nat}
    (below : cyclesFrom advance start last ≤ limit)
    (above : limit < cyclesFrom advance start (last + 1)) :
    countCompletedSubscriptionCalendarCycles start limit advance = some (last : Int) := by
  have strict : StrictMono (cyclesFrom advance start) := cyclesFrom_strictMono forward
  rw [countCompletedSubscriptionCalendarCycles]
  split
  next stands =>
    -- Only the start itself is up to the limit.
    cases last with
    | zero => rfl
    | succ last =>
      have later : start < cyclesFrom advance start (last + 1) := strict (Nat.zero_lt_succ last)
      omega
  · have traces : Traces (completedCycleRound advance limit)
        (fun step => (cyclesFrom advance start step, (step : Int))) last (last : Int) := by
      constructor
      · intro step before
        have ended : cyclesFrom advance start (step + 1) ≤ limit :=
          (strict.monotone before).trans below
        rw [cyclesFrom_succ] at ended
        have moves := forward (cyclesFrom advance start step)
        simp only [completedCycleRound, cyclesFrom_succ]
        rw [if_neg (by omega)]
        rfl
      · rw [cyclesFrom_succ] at above
        exact if_pos (.inr above)
    apply traces.runLoop_eq
    have := le_of_last strict below
    change last ≤ (limit - start).toNat at this
    omega

end

end Calendar

/-! ## Months by `AddDate` -/

section Months

variable (loc : Location)

/-- The months that `AddDate` counts from a start. -/
def monthCycles (start : Int) : Nat → Int :=
  cyclesFrom (fun unix => loc.addMonths unix 1) start

/-- The month is too short for the day of the month that `AddDate` looks for in it. -/
def Location.monthLacksDay (month day : Int) : Prop :=
  Calendar.monthStart (month + 1) - Calendar.monthStart month ≤ day

instance (month day : Int) : Decidable (monthLacksDay month day) :=
  inferInstanceAs (Decidable (_ ≤ _))

theorem monthCycles_strictMono (start : Int) : StrictMono (monthCycles loc start) :=
  cyclesFrom_strictMono fun unix => loc.lt_addMonths unix one_pos

namespace Location

theorem dayInMonth_nonneg (unix : Int) : 0 ≤ loc.dayInMonth unix := by
  have := (Calendar.monthOf_spec (loc.dayOf unix)).1
  simp only [dayInMonth, monthOf]
  omega

theorem dayOf_addMonths (unix months : Int) :
    loc.dayOf (loc.addMonths unix months) =
      Calendar.monthStart (loc.monthOf unix + months) + loc.dayInMonth unix := by
  simp only [addMonths, dayInMonth, monthOf, date, clockOf]
  simp only [dayOf]
  omega

/-- A month later by `AddDate` is a later month, and the next one exactly when that has
the day. -/
theorem monthOf_addMonths (unix : Int) :
    loc.monthOf unix + 1 ≤ loc.monthOf (loc.addMonths unix 1) ∧
      (loc.monthOf (loc.addMonths unix 1) = loc.monthOf unix + 1 ↔
        ¬ monthLacksDay (loc.monthOf unix + 1) (loc.dayInMonth unix)) := by
  have day := loc.dayOf_addMonths unix 1
  have nonneg := loc.dayInMonth_nonneg unix
  have begun : loc.monthOf unix + 1 ≤ loc.monthOf (loc.addMonths unix 1) :=
    (Calendar.monthStart_le_iff _ _).mp (by omega)
  have next := Calendar.monthStart_le_iff (loc.monthOf unix + 1 + 1)
    (loc.dayOf (loc.addMonths unix 1))
  change _ ↔ _ ≤ loc.monthOf (loc.addMonths unix 1) at next
  refine ⟨begun, ?_⟩
  rw [monthLacksDay]
  omega

end Location

/-- The months counted by `AddDate` run ahead of the calendar's, and stay with it as long
as every month has the day of the start. -/
theorem monthOf_monthCycles (start : Int) (step : Nat) :
    loc.monthOf start + step ≤ loc.monthOf (monthCycles loc start step) ∧
      (loc.monthOf (monthCycles loc start step) = loc.monthOf start + step ↔
        ∀ before < step, ¬ monthLacksDay (loc.monthOf start + before + 1)
          (loc.dayInMonth start)) ∧
      (loc.monthOf (monthCycles loc start step) = loc.monthOf start + step →
        loc.dayInMonth (monthCycles loc start step) = loc.dayInMonth start ∧
          loc.monthClockOf (monthCycles loc start step) = loc.monthClockOf start) := by
  induction step with
  | zero => simp [monthCycles, cyclesFrom]
  | succ step ih =>
    obtain ⟨ahead, same, clocks⟩ := ih
    obtain ⟨later, next⟩ := loc.monthOf_addMonths (monthCycles loc start step)
    rw [show monthCycles loc start (step + 1) = loc.addMonths (monthCycles loc start step) 1 from
      cyclesFrom_succ _ start step]
    have stays : loc.monthOf (loc.addMonths (monthCycles loc start step) 1) =
          loc.monthOf start + (step + 1 : Nat) →
        loc.monthOf (monthCycles loc start step) = loc.monthOf start + step := by
      omega
    refine ⟨by push_cast; omega, ?_, ?_⟩
    · constructor
      · intro reached before inside
        have here := stays reached
        rcases Nat.lt_succ_iff_lt_or_eq.mp inside with earlier | rfl
        · exact same.mp here before earlier
        · rw [here, (clocks here).1] at next
          exact next.mp (by rw [reached]; push_cast; omega)
      · intro long
        have here := same.mpr fun before inside => long before (by omega)
        rw [here, (clocks here).1] at next
        have reached := next.mpr (long step (by omega))
        omega
    · intro reached
      have here := stays reached
      have moved : loc.monthOf (loc.addMonths (monthCycles loc start step) 1) =
          loc.monthOf (monthCycles loc start step) + 1 := by
        omega
      have day := loc.dayOf_addMonths (monthCycles loc start step) 1
      rw [← (clocks here).1, ← (clocks here).2]
      constructor
      · rw [dayInMonth, moved, day]
        omega
      · rw [monthClockOf, monthClockOf, moved]
        simp only [addMonths, monthOf, date, clockOf]
        simp only [dayOf]
        omega

end Months

/-! ## The two clocks compared -/

/-- The moment lies at least as late in its day, week or month as the start does in its
own, and every month since the start has the day of the start.  A custom period has to
come round as often by its length in seconds as by its `time.Duration`. -/
def ClocksAgree (loc : Location) (plan : SubscriptionPlan) (start now : Int) : Prop :=
  match normalizeResetPeriod plan.quotaResetPeriod with
  | .never => True
  | .daily => loc.clockOf start ≤ loc.clockOf now
  | .weekly => loc.weekClockOf start ≤ loc.weekClockOf now
  | .monthly =>
    loc.monthClockOf start ≤ loc.monthClockOf now ∧
      ∀ before < (loc.monthOf now - loc.monthOf start).toNat,
        ¬ monthLacksDay (loc.monthOf start + before + 1) (loc.dayInMonth start)
  | .custom =>
    plan.customResetStep ≤ 0 ∨
      (now - start) / plan.customResetStep ≤ (now - start) / plan.quotaResetCustomSeconds

instance (loc : Location) (plan : SubscriptionPlan) (start now : Int) :
    Decidable (ClocksAgree loc plan start now) := by
  unfold ClocksAgree
  split <;> infer_instance

/-- As many months by `AddDate` are over as the calendar has begun exactly when the clocks
of the month agree. -/
theorem monthCycles_le_iff (loc : Location) {start now : Int} (started : start ≤ now) :
    monthCycles loc start (loc.monthOf now - loc.monthOf start).toNat ≤ now ↔
      loc.monthClockOf start ≤ loc.monthClockOf now ∧
        ∀ before < (loc.monthOf now - loc.monthOf start).toNat,
          ¬ monthLacksDay (loc.monthOf start + before + 1) (loc.dayInMonth start) := by
  have advanced : loc.monthOf start ≤ loc.monthOf now := loc.monthClock.monotone_u started
  generalize countEq : (loc.monthOf now - loc.monthOf start).toNat = count
  obtain ⟨_, same, clocks⟩ := monthOf_monthCycles loc start count
  constructor
  · intro ended
    have notLater := loc.monthClock.monotone_u ended
    have here : loc.monthOf (monthCycles loc start count) = loc.monthOf start + count := by omega
    refine ⟨?_, same.mp here⟩
    rw [← (clocks here).2, monthClockOf, monthClockOf, here,
      show loc.monthOf start + count = loc.monthOf now by omega]
    omega
  · rintro ⟨clock, long⟩
    have here := same.mpr long
    rw [← (clocks here).2, monthClockOf, monthClockOf, here,
      show loc.monthOf start + count = loc.monthOf now by omega] at clock
    omega

section Position

variable {loc : Location} {sub : UserSubscription} {plan : SubscriptionPlan} {now : Int}

theorem monthlyPosition_eq (positive : 0 < sub.startTime) (started : sub.startTime ≤ now)
    (running : now < sub.endTime) :
    ∃ total index : Nat,
      subscriptionMonthlyRefundCyclePosition loc sub now = some ((total : Int), (index : Int)) ∧
        index < total ∧ monthCycles loc sub.startTime index ≤ now ∧
        now < monthCycles loc sub.startTime (index + 1) := by
  have forward : ∀ unix, unix < loc.addMonths unix 1 := fun unix => loc.lt_addMonths unix one_pos
  have strict := monthCycles_strictMono loc sub.startTime
  obtain ⟨last, lastBelow, lastAbove⟩ := exists_last strict
    (show sub.startTime ≤ sub.endTime - 1 by omega)
  obtain ⟨index, below, above⟩ := exists_last strict started
  have inside : index ≤ last :=
    (le_last_iff strict lastBelow lastAbove).mpr (below.trans (by omega))
  have total := countSubscriptionCalendarCycles_eq forward
    (show monthCycles loc sub.startTime last < sub.endTime by omega)
    (Int.le_of_sub_one_lt lastAbove)
  have current := countCompletedSubscriptionCalendarCycles_eq forward below above
  refine ⟨last + 1, index, ?_, by omega, below, above⟩
  simp only [subscriptionMonthlyRefundCyclePosition]
  simp only [total, current, Option.bind_eq_bind, Option.bind_some]
  rw [if_neg (by omega), if_neg (by omega)]
  rfl

theorem fixedPosition_agrees (started : sub.startTime ≤ now) (running : now < sub.endTime)
    (endFits : sub.endTime < 2 ^ 63) {cycleSeconds resets : Int}
    (cycleFits : cycleSeconds < 2 ^ 63) {agree : Prop}
    (compare : 0 < cycleSeconds → 0 ≤ (now - sub.startTime) / cycleSeconds →
      (resets ≤ (now - sub.startTime) / cycleSeconds ↔ agree)) :
    ∃ total index,
      some (subscriptionFixedRefundCyclePosition sub now cycleSeconds) = some (total, index) ∧
        (0 < total → 0 ≤ index ∧ index < total ∧ (resets ≤ index ↔ agree)) := by
  refine ⟨(subscriptionFixedRefundCyclePosition sub now cycleSeconds).1,
    (subscriptionFixedRefundCyclePosition sub now cycleSeconds).2, rfl, ?_⟩
  intro counted
  unfold subscriptionFixedRefundCyclePosition at counted ⊢
  split at counted
  · cases counted
  rename_i usable
  rw [if_neg usable]
  dsimp only at counted ⊢
  split at counted
  · cases counted
  rename_i some
  rw [if_neg some]
  obtain ⟨cyclePos, total⟩ := ceilDivideInt64_pos (by omega) cycleFits (not_le.mp some)
  have elapsed : (now - sub.startTime).tdiv cycleSeconds =
      (now - sub.startTime) / cycleSeconds :=
    Int.tdiv_eq_ediv_of_nonneg (by omega)
  have nonneg : 0 ≤ (now - sub.startTime) / cycleSeconds :=
    Int.ediv_nonneg (by omega) cyclePos.le
  have inside : (now - sub.startTime) / cycleSeconds ≤
      (sub.endTime - sub.startTime - 1) / cycleSeconds :=
    Int.ediv_le_ediv cyclePos (by omega)
  rw [elapsed, if_neg (by omega), if_neg (by omega)]
  exact ⟨nonneg, by omega, compare cyclePos nonneg⟩

theorem cyclePosition_agrees (started : sub.startTime ≤ now) (running : now < sub.endTime)
    (endFits : sub.endTime < 2 ^ 63) (customFits : plan.quotaResetCustomSeconds < 2 ^ 63) :
    ∃ total index, subscriptionRefundCyclePosition loc sub plan now = some (total, index) ∧
      (0 < total → 0 ≤ index ∧ index < total ∧
        (((quotaResets loc plan sub.endTime sub.startTime now).length : Int) ≤ index ↔
          ClocksAgree loc plan sub.startTime now)) := by
  by_cases unusable : sub.startTime ≤ 0
  · exact ⟨0, 0, by simp [subscriptionRefundCyclePosition, unusable], nofun⟩
  have positive : 0 < sub.startTime := by omega
  have valid : ¬ (sub.startTime ≤ 0 ∨ sub.endTime ≤ sub.startTime) := by omega
  rw [quotaResets_count positive started running]
  simp only [subscriptionRefundCyclePosition, if_neg valid, ClocksAgree]
  cases period : normalizeResetPeriod plan.quotaResetPeriod with
  | never => exact ⟨0, 0, rfl, nofun⟩
  | daily =>
    apply fixedPosition_agrees started running endFits (by decide)
    simp only [dayOf, clockOf]
    omega
  | weekly =>
    apply fixedPosition_agrees started running endFits (by decide)
    simp only [weekOf, weekClockOf, date, dayOf]
    omega
  | custom =>
    apply fixedPosition_agrees started running endFits customFits
    intro cyclePos nonneg
    by_cases backward : plan.customResetStep ≤ 0
    · simp [backward, nonneg]
    · rw [if_neg (by omega)]
      simp [backward]
  | monthly =>
    obtain ⟨total, index, position, _, below, above⟩ :=
      monthlyPosition_eq positive started running
    refine ⟨total, index, position, fun _ => ⟨by omega, by omega, ?_⟩⟩
    change loc.monthOf now - loc.monthOf sub.startTime ≤ index ↔ _
    rw [← monthCycles_le_iff loc started,
      ← le_last_iff (monthCycles_strictMono loc sub.startTime) below above]
    omega

end Position

/-! ## The unused part and the resets -/

section Ratio

variable {quota : ℚ} {total index resets : Int}

theorem unusedCyclesRatio_eq (inside : index < total) :
    unusedCyclesRatio quota total index =
      clampRatio (div ((total - index - 1 : Int) + quota) total) := by
  rw [unusedCyclesRatio, if_neg (by omega)]

/-- With fresh quota a position that is behind the resets refunds at least one of their
cycles. -/
theorem lt_unusedCyclesRatio (nonneg : 0 ≤ index) (inside : index < total)
    (precise : total ≤ 10 ^ 16) (behind : index < resets) :
    div (total - resets : Int) total < unusedCyclesRatio 1 total index := by
  have totalPos : (0 : ℚ) < total := Int.cast_pos.mpr (by omega)
  have rest : (0 : ℚ) ≤ (total - index - 1 : Int) := Int.cast_nonneg (by omega)
  have unit : (1 : ℚ) / 10 ^ 16 ≤ 1 / total :=
    one_div_le_one_div_of_le totalPos (by exact_mod_cast precise)
  have whole : div total total = 1 := by
    rw [div, div_self totalPos.ne']
    exact round_of_hasPlaces ⟨10 ^ 16, by norm_num⟩
  have most : div ((total - index - 1 : Int) + 1) total ≤ 1 := by
    rw [← whole]
    apply div_le_div_right totalPos
    have : (0 : ℚ) ≤ index := Int.cast_nonneg nonneg
    push_cast
    linarith
  rw [unusedCyclesRatio_eq inside,
    clampRatio_of_mem (div_nonneg_of_nonneg (by linarith) totalPos) most]
  calc div (total - resets : Int) total
      ≤ div (total - index - 1 : Int) total := by
        apply div_le_div_right totalPos
        exact Int.cast_le.mpr (by omega)
    _ < div ((total - index - 1 : Int) + 1) total := by
        apply round_lt_of_unit_le (div_nonneg rest totalPos.le)
        rw [add_div]
        linarith

end Ratio

theorem refundUnusedRatio_of_position {loc : Location} {sub : UserSubscription}
    {plan : SubscriptionPlan} {now : Int} (started : sub.startTime ≤ now)
    (running : now < sub.endTime)
    (position : subscriptionRefundCyclePosition loc sub plan now = some (total, index)) :
    ∃ ratio, subscriptionRefundUnusedRatio loc sub plan now = some ratio ∧
      (0 < total → ratio = unusedCyclesRatio (subscriptionQuotaUnusedRatio sub) total index) := by
  by_cases unusable : sub.startTime ≤ 0
  · simp only [subscriptionRefundCyclePosition, unusable, true_or, if_true, Option.some.injEq,
      Prod.mk.injEq] at position
    refine ⟨0, by simp [subscriptionRefundUnusedRatio, unusable], ?_⟩
    omega
  · simp only [subscriptionRefundUnusedRatio]
    rw [if_neg (by omega), if_neg (by omega), if_neg (by omega)]
    split
    next never =>
      refine ⟨_, rfl, ?_⟩
      simp only [subscriptionRefundCyclePosition, never, ite_self, Option.some.injEq,
        Prod.mk.injEq] at position
      omega
    · simp only [position, Option.bind_eq_bind, Option.bind_some]
      split
      · exact ⟨_, rfl, by omega⟩
      · exact ⟨_, rfl, fun _ => rfl⟩

/-- The part of a subscription that can be refunded leaves out every cycle that a quota
reset has ended, and the refund's cycle position is not behind the resets, exactly when
the clocks agree; with fresh quota the bound on the part alone says so. -/
theorem ended_cycles_kept_iff (loc : Location) (sub : UserSubscription)
    (plan : SubscriptionPlan) (now : Int) (started : sub.startTime ≤ now)
    (running : now < sub.endTime) (endFits : sub.endTime < 2 ^ 63)
    (customFits : plan.quotaResetCustomSeconds < 2 ^ 63) :
    ∃ total index ratio, subscriptionRefundCyclePosition loc sub plan now = some (total, index) ∧
      subscriptionRefundUnusedRatio loc sub plan now = some ratio ∧
      (0 < total →
        let resets := ((quotaResets loc plan sub.endTime sub.startTime now).length : Int)
        ((ratio ≤ div (total - resets : Int) total ∧ resets ≤ index) ↔
            ClocksAgree loc plan sub.startTime now) ∧
          (subscriptionQuotaUsedRatio sub = 0 → total ≤ 10 ^ 16 →
            (ratio ≤ div (total - resets : Int) total ↔
              ClocksAgree loc plan sub.startTime now))) := by
  obtain ⟨total, index, position, agrees⟩ :=
    @cyclePosition_agrees loc _ _ _ started running endFits customFits
  obtain ⟨ratio, unused, eq⟩ := refundUnusedRatio_of_position started running position
  refine ⟨total, index, ratio, position, unused, fun counted => ?_⟩
  obtain ⟨nonneg, inside, iff⟩ := agrees counted
  have bounds : 0 ≤ subscriptionQuotaUnusedRatio sub ∧ subscriptionQuotaUnusedRatio sub ≤ 1 :=
    ⟨clampRatio_nonneg _, clampRatio_le_one _⟩
  -- a position that is not behind the resets leaves their cycles unrefunded
  have kept (resets : Int) (ahead : resets ≤ index) :
      unusedCyclesRatio (subscriptionQuotaUnusedRatio sub) total index ≤
        div (total - resets : Int) total := by
    have totalPos : (0 : ℚ) < total := Int.cast_pos.mpr counted
    have rest : (0 : ℚ) ≤ (total - index - 1 : Int) := Int.cast_nonneg (by omega)
    have fewer : ((total - index : Int) : ℚ) ≤ (total - resets : Int) := Int.cast_le.mpr (by omega)
    rw [unusedCyclesRatio_eq inside]
    refine (clampRatio_le (div_nonneg_of_nonneg (by linarith) totalPos)).trans ?_
    apply div_le_div_right totalPos
    push_cast at rest fewer ⊢
    linarith
  rw [eq counted, ← iff]
  constructor
  · exact ⟨fun both => both.2, fun ahead => ⟨kept _ ahead, ahead⟩⟩
  · intro fresh precise
    have whole : subscriptionQuotaUnusedRatio sub = 1 := by
      rw [subscriptionQuotaUnusedRatio, fresh, sub_zero]
      exact clampRatio_of_mem zero_le_one le_rfl
    refine ⟨fun bounded => ?_, kept _⟩
    by_contra behind
    rw [whole] at bounded
    exact absurd bounded
      (not_le.mpr (lt_unusedCyclesRatio nonneg inside precise (not_le.mp behind)))

/-- A week with daily resets that starts an hour before midnight. -/
def lateStart : UserSubscription :=
  { id := 1, userId := 1, planId := 1, amountTotal := 100, amountUsed := 0
    startTime := 82800, endTime := 687600 }

/-- The plan of `lateStart`. -/
def dailyWeek : SubscriptionPlan :=
  { id := 1, durationUnit := .day, durationValue := 7, totalAmount := 100
    quotaResetPeriod := "daily" }

/-- Two hours after the start the first daily cycle is over and its quota is handed out
afresh, but all seven cycles are still refunded. -/
theorem midnight_reset_still_refunded :
    (quotaResets ⟨0⟩ dailyWeek 687600 82800 90000).length = 1 ∧
      subscriptionRefundCyclePosition ⟨0⟩ lateStart dailyWeek 90000 = some (7, 0) ∧
      subscriptionRefundUnusedRatio ⟨0⟩ lateStart dailyWeek 90000 = some 1 ∧
      div (7 - 1 : Int) 7 < 1 := by
  decide +kernel

/-- At 23:00 of the second day the clocks agree: one cycle is over by both. -/
theorem next_evening_not_refunded :
    ∃ total index ratio,
      subscriptionRefundCyclePosition ⟨0⟩ lateStart dailyWeek 169200 = some (total, index) ∧
      subscriptionRefundUnusedRatio ⟨0⟩ lateStart dailyWeek 169200 = some ratio ∧
      ratio ≤ div (total - 1 : Int) total ∧ 1 ≤ index := by
  obtain ⟨total, index, ratio, position, unused, kept⟩ :=
    ended_cycles_kept_iff ⟨0⟩ lateStart dailyWeek 169200 (by decide) (by decide) (by decide)
      (by decide)
  have resets : (quotaResets ⟨0⟩ dailyWeek 687600 82800 169200).length = 1 := by decide +kernel
  have seven : subscriptionRefundCyclePosition ⟨0⟩ lateStart dailyWeek 169200 = some (7, 1) := by
    decide +kernel
  obtain ⟨rfl, rfl⟩ : 7 = total ∧ 1 = index := by
    rw [seven, Option.some.injEq, Prod.mk.injEq] at position
    exact position
  refine ⟨7, 1, ratio, seven, unused, ?_⟩
  have agree : ClocksAgree ⟨0⟩ dailyWeek lateStart.startTime 169200 := by decide +kernel
  have both := (kept (by decide)).1.mpr agree
  exact both

end StuHelper.Subscription
