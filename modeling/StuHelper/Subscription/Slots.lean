import StuHelper.Lib.Run
import StuHelper.Subscription.PurchaseSteps

/-!
# Purchase slots

A plan may limit how often one user buys it.  Inserting an order counts both the
subscriptions and the orders that wait for their payment, so that every pending order
has a slot of its own.  The purchases that need no waiting, and the completion of an
order that had already expired, count only the subscriptions: they can take the slot of
an order that is being paid.
-/

namespace StuHelper.Subscription

open Store

variable {loc : Location} {buyer now : Int} {plan : SubscriptionPlan} {source : Source}
  {order : SubscriptionOrder}

open Lib

section Slots

variable (shop : Shop) (userId planId limit : Int)

def Store.slotsTaken (store : Store) (userId planId : Int) : Nat :=
  store.subscriptionCount userId planId + store.pendingOrderCount userId planId

/-- The plan has this limit, and no more slots are taken than it allows. -/
structure SlotsKept (store : Store) : Prop where
  plan : ∃ plan, store.plans.find? planId = some plan ∧ plan.maxPurchasePerUser = limit
  taken : (store.slotsTaken userId planId : Int) ≤ limit

/-- If the subscriptions leave a slot, so do the pending orders: a purchase that the code admits
does not take the slot of an order. -/
def Unreserved (store : Store) : Prop :=
  (store.subscriptionCount userId planId : Int) < limit →
    (store.slotsTaken userId planId : Int) < limit

/-- A purchase that does not wait for a payment takes no slot that is reserved.  The same goes for
the late payment of an order that is no longer pending. -/
def FreeSlot (store : Store) : PurchaseOp → Prop
  | .balance buyer plan _ _ =>
    buyer = userId → plan = planId → Unreserved userId planId limit store
  | .selfServe purchase =>
    purchase.userId = userId → purchase.planId = planId → Unreserved userId planId limit store
  | .adminBind buyer plan _ =>
    buyer = userId → plan = planId → Unreserved userId planId limit store
  | .complete completion => ∀ order, store.orders.find? completion.tradeNo = some order →
      order.status ≠ .pending → order.userId = userId → order.planId = planId →
        Unreserved userId planId limit store
  | .insert _ _ => True
  | .expire _ _ _ => True

end Slots

variable {shop : Shop} {userId planId limit : Int} {store next : Store} {completion : Completion}
  {codec : PayloadCodec} {tradeNo : String}

/-! ## Counting -/

theorem Created.subscriptionCount (created : Created loc store next buyer plan source now)
    (userId planId : Int) :
    next.subscriptionCount userId planId = store.subscriptionCount userId planId +
      if buyer = userId ∧ plan.id = planId then 1 else 0 := by
  obtain ⟨_, -, subsEq⟩ := created.subs
  rw [Store.subscriptionCount, subsEq, Store.subscriptionCount, Serial.create]
  simp [List.countP_append, List.countP_cons, newSubscription]

theorem pendingOrderCount_insert {orders : Table SubscriptionOrder.tradeNo}
    (inserted : store.orders.insert? order = some orders) (sameOrders : next.orders = orders)
    (userId planId : Int) :
    next.pendingOrderCount userId planId = store.pendingOrderCount userId planId +
      if order.userId = userId ∧ order.planId = planId ∧ order.status = .pending then 1
      else 0 := by
  rw [pendingOrderCount, sameOrders, Table.countP_insert inserted, pendingOrderCount]
  simp [and_assoc]

theorem pendingOrderCount_save (changed : SubscriptionOrder)
    (found : store.orders.find? tradeNo = some order) (sameTrade : order.tradeNo = changed.tradeNo)
    (done : changed.status ≠ .pending) (sameOrders : next.orders = store.orders.save changed)
    (userId planId : Int) :
    next.pendingOrderCount userId planId +
        (if order.userId = userId ∧ order.planId = planId ∧ order.status = .pending then 1 else 0) =
      store.pendingOrderCount userId planId := by
  have counted := Table.countP_save (Table.find?_mem found) sameTrade
    (fun order => order.userId = userId && order.planId = planId &&
      order.status = .pending)
  rw [pendingOrderCount, sameOrders, pendingOrderCount]
  simpa [done, and_assoc] using counted

/-! ## Steps -/

namespace SlotsKept

theorem limit_eq (kept : SlotsKept userId planId limit store)
    (planned : store.getSubscriptionPlanById planId = .ok plan) :
    plan.maxPurchasePerUser = limit := by
  obtain ⟨-, -, _, found, rfl⟩ := getSubscriptionPlanById_ok planned
  obtain ⟨_, otherFound, limitEq⟩ := kept.plan
  cases found.symm.trans otherFound
  exact limitEq

theorem created (positive : 0 < limit) (kept : SlotsKept userId planId limit store) {bought : Int}
    (planned : store.getSubscriptionPlanById bought = .ok plan)
    (creation : Created loc store next buyer plan source now)
    (pending : next.pendingOrderCount userId planId ≤ store.pendingOrderCount userId planId)
    (free : buyer = userId → bought = planId → Unreserved userId planId limit store ∨
      next.pendingOrderCount userId planId < store.pendingOrderCount userId planId) :
    SlotsKept userId planId limit next := by
  obtain ⟨-, planKey, -⟩ := getSubscriptionPlanById_ok planned
  have count := creation.subscriptionCount userId planId
  have taken := kept.taken
  refine ⟨?_, ?_⟩
  · rw [creation.plans]
    exact kept.plan
  · simp only [Unreserved, slotsTaken] at taken free ⊢
    by_cases own : buyer = userId ∧ plan.id = planId
    · rw [if_pos own] at count
      -- the code has found the subscriptions below the limit
      have room := creation.room
      rw [own.1, own.2, kept.limit_eq (own.2 ▸ planKey ▸ planned)] at room
      omega
    · rw [if_neg own] at count
      omega

theorem pending_paid {before after : Store} (paid : PaidOrder before after) (userId planId : Int) :
    after.pendingOrderCount userId planId = before.pendingOrderCount userId planId := by
  obtain ⟨_, success, inserted⟩ := paid
  have count := pendingOrderCount_insert inserted rfl userId planId
  simpa [success] using count

section

variable (positive : 0 < limit) (kept : SlotsKept userId planId limit store)

include kept

include positive in
theorem insert (done : insertSubscriptionOrder store order now = .ok next) :
    SlotsKept userId planId limit next := by
  obtain ⟨orders, topUps, reserved, inserted, rfl⟩ := insertSubscriptionOrder_ok done
  have pending := pendingOrderCount_insert inserted
    (show Store.orders { store with orders := orders, topUps := topUps } = orders from rfl)
    userId planId
  refine ⟨kept.plan, ?_⟩
  have taken := kept.taken
  have sameSubs : subscriptionCount
      { store with orders := orders, topUps := topUps } userId planId =
        store.subscriptionCount userId planId := rfl
  simp only [slotsTaken] at taken ⊢
  by_cases own : (order.stamp now).userId = userId ∧ (order.stamp now).planId = planId ∧
      (order.stamp now).status = .pending
  · obtain ⟨rfl, rfl, waiting⟩ := own
    obtain ⟨plan, found, limitEq⟩ := kept.plan
    -- a pending or paid order is only inserted while a slot is free
    unfold reserveSubscriptionPurchaseSlot at reserved
    split at reserved
    · cases reserved
    have positiveId : 0 < (order.stamp now).planId := by omega
    have planned : store.getSubscriptionPlanById (order.stamp now).planId =
        .ok plan.normalizeDefaults := by
      simp [getSubscriptionPlanById, found, not_le.mpr positiveId]
    have limitEq' := kept.limit_eq planned
    rw [if_neg (by simp [waiting])] at reserved
    split at reserved
    · cases reserved
    simp only [planned] at reserved
    split at reserved
    · cases reserved
    rw [if_pos ⟨rfl, rfl, waiting⟩] at pending
    omega
  · rw [if_neg own] at pending
    omega

include positive in
theorem complete (free : FreeSlot userId planId limit store (.complete completion))
    (done : completeSubscriptionOrder loc codec store completion = .ok next) :
    SlotsKept userId planId limit next := by
  rcases completeSubscriptionOrder_ok done with rfl |
    ⟨order, plan, id, found, -, planned, creation, ordersEq⟩
  · exact kept
  · have pending := pendingOrderCount_save
      (order.complete codec completion id) found rfl
      (by simp [SubscriptionOrder.complete]) ordersEq userId planId
    apply kept.created positive planned creation (by omega)
    intro ownUser ownPlan
    by_cases waiting : order.status = .pending
    · -- The order gives its own slot to the subscription.
      rw [if_pos ⟨ownUser, ownPlan, waiting⟩] at pending
      exact .inr (by omega)
    · exact .inl (free order found waiting ownUser ownPlan)

theorem expire {expected : Option PaymentProvider}
    (done : expireSubscriptionOrder store tradeNo expected now = .ok next) :
    SlotsKept userId planId limit next := by
  rcases expireSubscriptionOrder_ok done with rfl | ⟨order, topUps, found, -, rfl⟩
  · exact kept
  · have pending := pendingOrderCount_save
      { order with status := .expired, completeTime := now } found rfl (by simp)
      (show orders { store with
        orders := store.orders.save { order with status := .expired, completeTime := now }
        topUps := topUps } = _ from rfl) userId planId
    have sameSubs : subscriptionCount { store with
        orders := store.orders.save { order with status := .expired, completeTime := now }
        topUps := topUps } userId planId = store.subscriptionCount userId planId := rfl
    refine ⟨kept.plan, ?_⟩
    have taken := kept.taken
    simp only [slotsTaken] at taken ⊢
    omega

end

theorem step (shop : Shop) (positive : 0 < limit) (store : Store) (op : PurchaseOp)
    (kept : SlotsKept userId planId limit store) (free : FreeSlot userId planId limit store op) :
    SlotsKept userId planId limit (purchaseStep shop store op) := by
  unfold purchaseStep
  split
  next next done =>
    cases op with
    | insert => exact kept.insert positive done
    | complete => exact kept.complete positive free done
    | expire => exact kept.expire done
    | balance =>
      obtain ⟨plan, planned, creation, paid, -⟩ := balance_ok done
      exact kept.created positive planned creation (pending_paid paid userId planId).le
        fun ownUser ownPlan => .inl (free ownUser ownPlan)
    | selfServe =>
      obtain ⟨plan, planned, creation, paid, -⟩ := selfServe_ok done
      exact kept.created positive planned creation (pending_paid paid userId planId).le
        fun ownUser ownPlan => .inl (free ownUser ownPlan)
    | adminBind =>
      obtain ⟨_, planned, creation, ordersEq, -⟩ := adminBind_ok done
      have pending : next.pendingOrderCount userId planId =
          store.pendingOrderCount userId planId := by
        rw [pendingOrderCount, ordersEq, pendingOrderCount]
      exact kept.created positive planned creation pending.le
        fun ownUser ownPlan => .inl (free ownUser ownPlan)
  next => exact kept

end SlotsKept

/-! ## Completing a pending order -/

theorem create_limit (failed : createUserSubscriptionFromPlan loc store buyer plan source now =
      .error .purchaseLimit) : plan.maxPurchasePerUser ≤ store.subscriptionCount buyer plan.id := by
  unfold createUserSubscriptionFromPlan at failed
  split at failed
  · cases failed
  split at failed
  · cases failed
  split at failed
  next error locked =>
    unfold lockSubscriptionPurchaseUser at locked
    cases failed
    split at locked
    · cases locked
    split at locked <;> cases locked
  · unfold createUserSubscriptionFromPlanLocked at failed
    split at failed
    · cases failed
    split at failed
    · omega
    split at failed
    · cases failed
    simp only at failed
    split at failed <;> cases failed

theorem completeOrder_limit
    (failed : completeOrder loc codec store order completion = .error .purchaseLimit) :
    ∃ plan, store.getSubscriptionPlanById order.planId = .ok plan ∧
      plan.maxPurchasePerUser ≤ store.subscriptionCount order.userId plan.id := by
  unfold completeOrder at failed
  split at failed
  next error missing =>
    unfold getSubscriptionPlanById at missing
    cases failed
    split at missing
    · cases missing
    split at missing <;> cases missing
  rename_i plan planned
  refine ⟨plan, planned, ?_⟩
  split at failed
  next error creating =>
    cases failed
    exact create_limit creating
  simp only at failed
  split at failed
  next error upserting =>
    cases failed
    unfold upsertSubscriptionTopUp at upserting
    simp only at upserting
    split at upserting
    · split at upserting <;> cases upserting
    · split at upserting
      · cases upserting
      split at upserting <;> cases upserting
  next => split at failed <;> cases failed

/-! ## Whole runs -/

/-- In every run whose immediate purchases and late payments take no slot that is reserved, the
subscriptions and pending orders of a user stay within the limit of the plan, and a payment for a
pending order is never turned away by it. -/
theorem purchase_slots_kept (shop : Shop) (userId planId limit : Int)
    (positive : 0 < limit) (initial : Store)
    (planned : ∃ plan, initial.plans.find? planId = some plan ∧ plan.maxPurchasePerUser = limit)
    (initially : (initial.slotsTaken userId planId : Int) ≤ limit) (ops : List PurchaseOp)
    (free : Along (FreeSlot userId planId limit) (purchaseStep shop) initial ops) :
    ((run (purchaseStep shop) initial ops).slotsTaken userId planId : Int) ≤ limit ∧
      ∀ completion order,
        (run (purchaseStep shop) initial ops).orders.find? completion.tradeNo = some order →
        order.userId = userId → order.planId = planId → order.status = .pending →
        completeSubscriptionOrder shop.loc shop.codec
          (run (purchaseStep shop) initial ops) completion ≠ .error .purchaseLimit := by
  have kept : SlotsKept userId planId limit (run (purchaseStep shop) initial ops) :=
    run_invariant (SlotsKept.step shop positive) ⟨planned, initially⟩ free
  refine ⟨kept.taken, ?_⟩
  intro completion order found ownUser ownPlan waiting failed
  unfold completeSubscriptionOrder at failed
  split at failed
  · cases failed
  simp only [found] at failed
  split at failed
  · cases failed
  rw [if_neg (by simp [waiting]), if_neg (by
    simp [SubscriptionOrder.completable, waiting])] at failed
  obtain ⟨_, planned, full⟩ := completeOrder_limit failed
  obtain ⟨-, planKey, -⟩ := getSubscriptionPlanById_ok planned
  rw [planKey, ownUser, ownPlan] at full
  rw [ownPlan] at planned
  rw [kept.limit_eq planned] at full
  -- the order itself has reserved a slot
  have reserved : 0 < (run (purchaseStep shop) initial ops).pendingOrderCount userId planId := by
    apply List.countP_pos_iff.mpr
    exact ⟨order, Table.find?_mem found, by simp [ownUser, ownPlan, waiting]⟩
  have taken := kept.taken
  simp only [slotsTaken] at taken
  omega

/-- A user with a wallet, and a free plan with a limit. -/
def slotsStart (limit : Int) : Store where
  users := .single { id := 7, quota := 50 }
  plans := .single { id := 1, maxPurchasePerUser := limit, durationUnit := .day }

def waitingOrder : SubscriptionOrder :=
  { tradeNo := "a", userId := 7, planId := 1, paymentMethod := "stripe",
    paymentProvider := .stripe }

/-- While an order waits for its payment, a purchase with the wallet takes its slot: two
slots are taken where one is allowed, and the payment of the order is turned away. -/
theorem wallet_purchase_takes_reserved_slot :
    (slotsStart 1).slotsTaken 7 1 = 0 ∧
      (run (purchaseStep plainShop) (slotsStart 1)
        [.insert waitingOrder 10, .balance 7 1 "b" 20]).slotsTaken 7 1 = 2 ∧
      ((run (purchaseStep plainShop) (slotsStart 1)
        [.insert waitingOrder 10, .balance 7 1 "b" 20]).orders.find? "a").map
          SubscriptionOrder.status = some .pending ∧
      ((completeSubscriptionOrder plainShop.loc plainShop.codec
        (run (purchaseStep plainShop) (slotsStart 1) [.insert waitingOrder 10, .balance 7 1 "b" 20])
        { tradeNo := "a", now := 30 }).map fun _ => ()) = .error .purchaseLimit := by
  decide +kernel

/-- A purchase takes the only slot, and the code refuses an order and a second purchase. -/
theorem purchase_slots_kept_full :
    (run (purchaseStep plainShop) (slotsStart 1) [.balance 7 1 "b" 10, .insert waitingOrder 20,
      .balance 7 1 "c" 30]).slotsTaken 7 1 = 1 ∧
    ((run (purchaseStep plainShop) (slotsStart 1) [.balance 7 1 "b" 10, .insert waitingOrder 20,
      .balance 7 1 "c" 30]).slotsTaken 7 1 : Int) ≤ 1 := by
  refine ⟨by decide +kernel, (purchase_slots_kept plainShop 7 1 1 (by decide) (slotsStart 1)
    ⟨{ id := 1, maxPurchasePerUser := 1, durationUnit := .day }, rfl, rfl⟩ (by decide +kernel)
    [.balance 7 1 "b" 10, .insert waitingOrder 20, .balance 7 1 "c" 30]
    ⟨fun _ _ _ => by decide +kernel, trivial, fun _ _ less => ?_, trivial⟩).1⟩
  exact absurd less (by decide +kernel)

end StuHelper.Subscription
