import Mathlib.Data.Set.Pairwise.Lattice
import Mathlib.Order.CompletePartialOrder
import Mathlib.Order.Interval.Set.Disjoint
import StuHelper.Lib.Run
import StuHelper.Subscription.LifecycleSteps

/-!
# Renewals queue up

A renewal starts where the last active subscription of the same plan ends, so the times
that the active subscriptions of a user and plan cover are disjoint.  Cancelling,
deleting and expiring only take rows out of that set.  A refund that fails puts a row
back with its old times, whatever was bought while it was cancelled.
-/

namespace StuHelper.Subscription

open Lib

def UserSubscription.period (sub : UserSubscription) : Set Int :=
  Set.Ico sub.startTime sub.endTime

def Store.activeSubs (store : Store) (userId planId : Int) : Set UserSubscription :=
  { sub | sub ∈ store.subs.rows ∧ sub.status = .active ∧ sub.userId = userId ∧ sub.planId = planId }

def Queued (userId planId : Int) (store : Store) : Prop :=
  (store.activeSubs userId planId).PairwiseDisjoint UserSubscription.period

/-- A subscription that a sync brings back overlaps no active one of its plan. -/
def FitsBack (shop : Shop) (userId planId : Int) (store : Store) : LifecycleOp → Prop
  | .syncRefund sync => ∀ sub, Reactivates shop.codec store sync.tradeNo sub →
      sub.userId = userId → sub.planId = planId →
        ∀ other ∈ store.activeSubs userId planId, Disjoint sub.period other.period
  | _ => True

variable {shop : Shop} {userId planId buyer now : Int} {store next : Store}
  {plan : SubscriptionPlan} {row : UserSubscription} {source : Source} {loc : Location}

/-! ## What each operation does to the active subscriptions -/

theorem activeSubs_of_subs (same : next.subs = store.subs) :
    next.activeSubs userId planId = store.activeSubs userId planId := by
  simp only [Store.activeSubs, same]

/-- A row that is saved without belonging to the active subscriptions leaves them. -/
theorem activeSubs_save_outside (subs : next.subs = store.subs.save row)
    (outside : row.status = .active → row.userId = userId → row.planId ≠ planId) :
    next.activeSubs userId planId ⊆ store.activeSubs userId planId := by
  rintro sub ⟨member, active, ownUser, ownPlan⟩
  rw [subs] at member
  rcases Table.mem_save.mp member with ⟨rfl, -⟩ | ⟨old, -⟩
  · exact absurd ownPlan (outside active ownUser)
  · exact ⟨old, active, ownUser, ownPlan⟩

/-- A saved row joins the active subscriptions, if it belongs to them at all. -/
theorem activeSubs_save (subs : next.subs = store.subs.save row) :
    next.activeSubs userId planId ⊆ insert row (store.activeSubs userId planId) := by
  rintro sub ⟨member, active, own⟩
  rw [subs] at member
  rcases Table.mem_save.mp member with ⟨rfl, -⟩ | ⟨old, -⟩
  · exact Set.mem_insert sub _
  · exact Set.mem_insert_of_mem row ⟨old, active, own⟩

/-! ## Creations -/

theorem endTime_le_nextStart {sub : UserSubscription}
    (active : sub ∈ store.activeSubs userId planId) (now : Int) :
    sub.endTime ≤ (store.nextSubscriptionStartTime userId planId now).1 := by
  obtain ⟨member, isActive, ownUser, ownPlan⟩ := active
  unfold Store.nextSubscriptionStartTime
  split
  next latest found =>
    have latestEnds := (selectFirst_mem found).2
    simp only [Bool.and_eq_true, decide_eq_true_eq] at latestEnds
    by_cases running : sub.endTime > now
    · have first := selectFirst_before found member
        (by simp [isActive, ownUser, ownPlan, running])
      rcases first with rfl | before
      · exact le_rfl
      · simp only [Descending, Ascending] at before
        omega
    · omega
  next none =>
    have ended := selectFirst_eq_none.mp none sub member
    simpa [isActive, ownUser, ownPlan] using ended

theorem activeSubs_created (created : Created loc store next buyer plan source now)
    (userId planId : Int) :
    ∃ row, next.activeSubs userId planId ⊆ insert row (store.activeSubs userId planId) ∧
      row.startTime = (store.nextSubscriptionStartTime buyer plan.id now).1 ∧
      (row ∈ next.activeSubs userId planId → buyer = userId ∧ plan.id = planId) := by
  obtain ⟨endTime, -, subs⟩ := created.subs
  refine ⟨newSubscription loc store buyer plan source now endTime store.subs.next,
    ?_, rfl, fun active => active.2.2⟩
  rintro sub ⟨member, active, own⟩
  rw [subs] at member
  rcases Serial.mem_create.mp member with old | rfl
  · exact Set.mem_insert_of_mem _ ⟨old, active, own⟩
  · exact Set.mem_insert _ _

/-! ## One step -/

namespace Queued

theorem created (queued : Queued userId planId store)
    (creation : Created loc store next buyer plan source now) : Queued userId planId next := by
  obtain ⟨row, added, starts, own⟩ := activeSubs_created creation userId planId
  by_cases joins : row ∈ next.activeSubs userId planId
  · obtain ⟨rfl, rfl⟩ := own joins
    apply Set.PairwiseDisjoint.subset _ added
    apply Set.PairwiseDisjoint.insert queued
    intro other active _
    apply Set.Ico_disjoint_Ico.mpr
    rw [starts]
    exact (min_le_right _ _).trans ((endTime_le_nextStart active now).trans (le_max_left _ _))
  · apply Set.PairwiseDisjoint.subset queued
    intro sub active
    apply Set.mem_of_mem_insert_of_ne (added active)
    rintro rfl
    exact joins active

theorem synced {tradeNo : String} (queued : Queued userId planId store)
    (synced : Synced shop.codec store next tradeNo)
    (fits : ∀ sub, Reactivates shop.codec store tradeNo sub →
      sub.userId = userId → sub.planId = planId →
        ∀ other ∈ store.activeSubs userId planId, Disjoint sub.period other.period) :
    Queued userId planId next := by
  cases synced with
  | same subs =>
    rw [Queued, activeSubs_of_subs subs]
    exact queued
  | cancelled sub _ subs => exact queued.subset (activeSubs_save_outside subs (by simp))
  | reactivated sub _ reason subs =>
    by_cases own : sub.userId = userId ∧ sub.planId = planId
    · apply Set.PairwiseDisjoint.subset _ (activeSubs_save subs)
      apply Set.PairwiseDisjoint.insert queued
      intro other active _
      exact fits sub reason own.1 own.2 other active
    · apply queued.subset (activeSubs_save_outside subs _)
      intro _ ownUser ownPlan
      exact own ⟨ownUser, ownPlan⟩

/-- Every operation keeps the active subscriptions apart, as long as a subscription that
comes back still fits. -/
theorem step (state : Store) (op : LifecycleOp) (queued : Queued userId planId state)
    (fits : FitsBack shop userId planId state op) :
    Queued userId planId (lifecycleStep shop state op) := by
  unfold lifecycleStep
  cases committed : op.commit shop state with
  | error => exact queued
  | ok =>
    cases op with
    | purchase =>
      rcases purchase_ok committed with ⟨subs, -⟩ | ⟨_, _, _, _, -, -, creation⟩
      · simp only [Queued, activeSubs_of_subs subs]
        exact queued
      · exact queued.created creation
    | invalidate =>
      simp only [LifecycleOp.commit, adminInvalidateUserSubscription] at committed
      split at committed
      · cases committed
      split at committed
      · cases committed
      · obtain ⟨_, -, rfl⟩ := downgrade_ok committed
        exact queued.subset (activeSubs_save_outside rfl (by simp))
    | delete =>
      simp only [LifecycleOp.commit, adminDeleteUserSubscription] at committed
      iterate 3
        split at committed
        · cases committed
      rename_i moved
      obtain ⟨_, -, rfl⟩ := downgrade_ok moved
      cases committed
      apply queued.subset
      rintro sub ⟨member, own⟩
      exact ⟨(Table.mem_discard.mp member).1, own⟩
    | expireDue limit now =>
      cases committed
      apply queued.subset
      refine List.foldlRecOn (motive := fun next : Nat × Store =>
        next.2.activeSubs userId planId ⊆ _) _ _ subset_rfl fun next fewer user _ => ?_
      rintro sub ⟨member, active, own⟩
      obtain ⟨old, oldMem, rfl⟩ := mem_expireUser.mp member
      have same := UserSubscription.expire_of_active active
      rw [same] at active own ⊢
      exact fewer ⟨oldMem, active, own⟩
    | applyStarted limit now =>
      cases committed
      simp only [Queued, activeSubs_of_subs (applyStarted_subs state limit now)]
      exact queued
    | bookRefund =>
      cases committed
      exact queued
    | syncRefund => exact queued.synced (sync_ok committed) fits

end Queued

/-! ## Whole runs -/

/-- In every run in which a subscription that is brought back after a failed refund
overlaps no active one of its plan, the active subscriptions of a user and plan cover
disjoint times. -/
theorem renewals_queue_up (shop : Shop) (userId planId : Int) (initial : Store)
    (initially : Queued userId planId initial) (ops : List LifecycleOp)
    (fits : Along (FitsBack shop userId planId) (lifecycleStep shop) initial ops) :
    Queued userId planId (run (lifecycleStep shop) initial ops) :=
  run_invariant Queued.step initially fits

def renewalStart : Store where
  users := .single { id := 7 }
  plans := .single { id := 1, durationUnit := .day }

/-- An order is paid, and cancelled when its money is refunded. -/
def paidThenRefunded : List LifecycleOp :=
  [.purchase (.insert { tradeNo := "a", userId := 7, planId := 1, money := 5 } 10),
    .purchase (.complete { tradeNo := "a", now := 20 }), .bookRefund "a" 5,
    .syncRefund { tradeNo := "a", now := 30 }]

/-- The refund fails, and the order counts as paid again. -/
def refundFailed : List LifecycleOp :=
  [.bookRefund "a" 0, .syncRefund { tradeNo := "a", now := 50 }]

/-- A plan that is bought again while its refund is under way runs twice when the refund
fails. -/
theorem failed_refund_overlaps_renewal :
    Queued 7 1 renewalStart ∧
      ¬ Queued 7 1 (run (lifecycleStep plainShop) renewalStart
        (paidThenRefunded ++ .purchase (.adminBind 7 1 40) :: refundFailed)) := by
  constructor
  · intro sub active
    cases active.1
  intro queued
  have both : ∀ id ∈ [1, 2], ∃ sub ∈ (run (lifecycleStep plainShop) renewalStart
      (paidThenRefunded ++ .purchase (.adminBind 7 1 40) :: refundFailed)).subs.rows,
        sub.id = id ∧ (sub.status = .active ∧ sub.userId = 7 ∧ sub.planId = 1) ∧
          sub.startTime ≤ 50 ∧ 50 < sub.endTime := by
    decide +kernel
  obtain ⟨first, firstMem, firstId, firstOwn, firstRuns⟩ := both 1 (by decide)
  obtain ⟨second, secondMem, secondId, secondOwn, secondRuns⟩ := both 2 (by decide)
  have same : first = second :=
    queued.elim_set ⟨firstMem, firstOwn⟩ ⟨secondMem, secondOwn⟩ 50 firstRuns secondRuns
  rw [same, secondId] at firstId
  cases firstId

/-- Without a purchase in between the subscription comes back alone. -/
theorem failed_refund_brings_back :
    Queued 7 1 (run (lifecycleStep plainShop) renewalStart (paidThenRefunded ++ refundFailed)) := by
  apply renewals_queue_up plainShop 7 1 renewalStart
  · intro sub active
    cases active.1
  · refine ⟨trivial, trivial, trivial, ?_, trivial, ?_, trivial⟩
    · intro sub reason
      have refunded : ∃ topUp ∈ (run (lifecycleStep plainShop) renewalStart
          (paidThenRefunded.take 3)).topUps.rows, topUp.tradeNo = "a" ∧
            ¬ Decimal.round 2 topUp.refundedMoney ≤ 0 := by
        decide +kernel
      obtain ⟨topUp, member, named, positive⟩ := refunded
      have found := Table.find?_eq_some.mpr ⟨member, named⟩
      exact absurd (reason.unrefunded topUp found) positive
    · intro sub _ _ _ other active
      have inactive : ∀ other ∈ (run (lifecycleStep plainShop) renewalStart
          (paidThenRefunded ++ refundFailed.take 1)).subs.rows, other.status ≠ .active := by
        decide +kernel
      exact absurd active.2.1 (inactive other active.1)

end StuHelper.Subscription
