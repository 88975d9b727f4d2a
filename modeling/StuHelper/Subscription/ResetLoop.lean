import StuHelper.Subscription.QuotaSteps

/-!
# The loop inside a reset

A reset walks from one boundary of the plan to the next until it has passed the current
time.  The boundaries of a plan move in one direction, so the walk ends, except for a
custom period that overflows to less than a second: there the next boundary is the
current one.

With that, a row whose stored reset time has passed is moved on exactly when the
boundary computed from the current plan has passed as well.
-/

namespace StuHelper.Subscription

open Lib UserSubscription

variable {loc : Location} {plan : SubscriptionPlan} {endUnix now base : Int}

theorem calcNextResetTime_cases (loc : Location) (base : Int) (plan : SubscriptionPlan)
    (endUnix : Int) :
    calcNextResetTime loc base plan endUnix = 0 ∨
      nextBoundary loc base plan = some (calcNextResetTime loc base plan endUnix) := by
  unfold calcNextResetTime
  split
  · exact .inl rfl
  next boundary found =>
    split
    · exact .inl rfl
    · exact .inr found

theorem resetLoop_of_measure (measure : Int → Nat)
    (small : ∀ boundary, measure boundary ≤ now.toNat + 1)
    (progress : ∀ boundary, 0 < boundary → boundary ≤ now →
      measure (calcNextResetTime loc boundary plan endUnix) < measure boundary) :
    ∃ result, resetLoop loc plan endUnix now base = some result := by
  obtain ⟨result, ended, -⟩ := @runLoop_of_measure _ _ (resetRound loc plan endUnix now)
    (fun _ => True) (fun state => measure state.2) (by
      rintro ⟨last, boundary⟩ next - again
      simp only [resetRound] at again
      split at again
      next passed =>
        cases again
        exact ⟨trivial, progress boundary passed.1 passed.2⟩
      · cases again) (base, calcNextResetTime loc base plan endUnix) trivial
  exact ⟨result, runLoop_mono _ (Nat.succ_le_succ (small _)) ended⟩

theorem resetLoop_ends (moves : plan.stalls = false) (endUnix now base : Int) :
    ∃ result, resetLoop loc plan endUnix now base = some result := by
  rcases nextBoundary_moves loc moves with forward | backward
  · -- Forward: the distance from the boundary to now shrinks.
    apply resetLoop_of_measure fun boundary =>
      if 0 < boundary ∧ boundary ≤ now then (now - boundary).toNat + 1 else 0
    · intro boundary
      split <;> omega
    · intro boundary positive passed
      rcases calcNextResetTime_cases loc boundary plan endUnix with none | found
      · split_ifs <;> omega
      · have later := forward boundary _ found
        split_ifs <;> omega
  · -- Backward: the boundary itself shrinks.
    apply resetLoop_of_measure fun boundary =>
      if 0 < boundary ∧ boundary ≤ now then boundary.toNat else 0
    · intro boundary
      split <;> omega
    · intro boundary positive passed
      rcases calcNextResetTime_cases loc boundary plan endUnix with none | found
      · split_ifs <;> omega
      · have earlier := backward boundary _ found
        split_ifs <;> omega

theorem not_ends_of_stalls (stalls : plan.stalls)
    (passed : 0 < calcNextResetTime loc base plan endUnix ∧
      calcNextResetTime loc base plan endUnix ≤ now) :
    ¬ Ends (resetRound loc plan endUnix now) (base, calcNextResetTime loc base plan endUnix) := by
  have fixed : calcNextResetTime loc (calcNextResetTime loc base plan endUnix) plan
      endUnix = calcNextResetTime loc base plan endUnix := by
    have found := (calcNextResetTime_cases loc base plan endUnix).resolve_left
      (by omega)
    simp only [SubscriptionPlan.stalls, Bool.and_eq_true, decide_eq_true_eq] at stalls
    obtain ⟨⟨custom, positive⟩, zero⟩ := stalls
    simp only [nextBoundary, custom, addDuration, zero] at found
    rw [if_neg (by omega), add_zero, Option.some.injEq] at found
    rw [← found]
    exact found.symm
  apply @not_ends_of_invariant _ _ _
    (fun state => state.2 = calcNextResetTime loc base plan endUnix)
  · rintro ⟨last, boundary⟩ same
    dsimp only at same
    refine ⟨_, if_pos (same ▸ passed), ?_⟩
    rw [same, fixed]
  · dsimp only

/-! ## Rows whose reset time has passed -/

/-- `next_reset_time > 0 AND next_reset_time <= now`. -/
def UserSubscription.resetDue (sub : UserSubscription) (now : Int) : Bool :=
  0 < sub.nextResetTime && sub.nextResetTime ≤ now

/-- The reset of this row reaches its end and moves the row on. -/
def UserSubscription.resetAdvances (loc : Location) (sub : UserSubscription)
    (plan : SubscriptionPlan) (now : Int) : Bool :=
  sub.boundaryPassed loc plan now && !plan.stalls

variable {sub : UserSubscription}

variable (due : sub.resetDue now)

include due

theorem maybeReset_due :
    maybeResetUserSubscriptionWithPlan loc sub plan now = if sub.boundaryPassed loc plan now then
        match resetLoop loc plan sub.endTime now sub.resetBase with
        | none => .error .resetNeverEnds
        | some (base, next) => .ok (sub.withPeriod 0 base next)
      else .ok sub := by
  simp only [resetDue, Bool.and_eq_true, decide_eq_true_eq] at due
  unfold maybeResetUserSubscriptionWithPlan
  by_cases never : normalizeResetPeriod plan.quotaResetPeriod = .never
  · have waiting : sub.boundaryPassed loc plan now = false := by
      simp [boundaryPassed, calcNextResetTime, nextBoundary, never]
    simp [resetNotDue, never, waiting]
  · have reached : sub.resetNotDue plan now = false := by simp [resetNotDue, never, due.2]
    have stored : ¬ (sub.nextResetTime = 0 ∧
        calcNextResetTime loc sub.resetBase plan sub.endTime > 0) := by
      omega
    rw [if_neg (by simp [reached])]
    exact if_congr Iff.rfl rfl (if_neg stored)

theorem maybeReset_advances (advances : sub.resetAdvances loc plan now) :
    ∃ moved, maybeResetUserSubscriptionWithPlan loc sub plan now = .ok moved ∧
      moved.id = sub.id ∧ moved.resetDue now = false := by
  simp only [resetAdvances, Bool.and_eq_true, Bool.not_eq_true'] at advances
  obtain ⟨⟨lastReset, nextReset⟩, ended⟩ := @resetLoop_ends loc plan advances.2
    sub.endTime now sub.resetBase
  refine ⟨sub.withPeriod 0 lastReset nextReset, ?_, rfl, ?_⟩
  · simp [maybeReset_due due, advances.1, ended]
  · -- what the walk returns lies after the current time, or says that there is no further boundary
    obtain ⟨⟨last, boundary⟩, -, stopped⟩ :=
      @runLoop_stopped _ _ _ (fun _ => True) (fun _ _ _ _ => trivial) _ _ _ trivial ended
    simp only [resetRound] at stopped
    split at stopped
    · cases stopped
    next waiting =>
      cases stopped
      simpa [resetDue] using waiting

/-- A reset that does not advance does not come back, or leaves the row due. -/
theorem maybeReset_stuck (stuck : sub.resetAdvances loc plan now = false) {moved : UserSubscription}
    (done : maybeResetUserSubscriptionWithPlan loc sub plan now = .ok moved) : moved = sub := by
  rw [maybeReset_due due] at done
  split at done
  next passed =>
    have stalls : plan.stalls := by simpa [resetAdvances, passed] using stuck
    have endless : resetLoop loc plan sub.endTime now sub.resetBase = none := by
      by_contra ends
      obtain ⟨result, ended⟩ := Option.ne_none_iff_exists'.mp ends
      apply not_ends_of_stalls stalls _ ⟨_, result, ended⟩
      simpa [boundaryPassed] using passed
    rw [endless] at done
    cases done
  · cases done
    rfl

end StuHelper.Subscription
