import StuHelper.Subscription.Purchase

/-!
# What the purchase transactions can do

Inversion lemmas for the operations that create orders and subscriptions.  `Created`
says everything about the creation itself: the limit was respected, the new row is
queued as `newSubscription` says, and the group of the user follows the plan if the
row starts at once.  The lemmas below reduce each way of buying a plan to it.
-/

namespace StuHelper.Subscription

variable {loc : Location} {store next : Store} {userId now : Int} {plan : SubscriptionPlan}
  {order : SubscriptionOrder} {codec : PayloadCodec}

open Lib

/-! ## Users -/

namespace Store

theorem getUserGroupById_setUserGroup (store : Store) (userId : Int) (group : String)
    (other : Int) :
    (store.setUserGroup userId group).getUserGroupById other =
      if other = userId ∧ (store.users.find? userId).isSome then group
      else store.getUserGroupById other := by
  simp only [getUserGroupById, setUserGroup, Table.find?_update]
  cases found : store.users.find? other with
  | none =>
    by_cases same : other = userId
    · subst same
      simp [found]
    · simp [same]
  | some user =>
    have userKey : user.id = other := Table.find?_key found
    by_cases same : other = userId
    · subst same
      simp [found, userKey]
    · simp [userKey, same]

end Store

/-! ## Creations -/

/-- A subscription was created, and no other subscription, plan or pre-consume record
has changed. -/
structure Created (loc : Location) (before after : Store) (userId : Int)
    (plan : SubscriptionPlan) (source : Source) (now : Int) : Prop where
  user : 0 < userId
  planId : 0 < plan.id
  room : plan.maxPurchasePerUser ≤ 0 ∨
    (before.subscriptionCount userId plan.id : Int) < plan.maxPurchasePerUser
  subs : ∃ endTime,
    calcPlanEndTime loc (before.nextSubscriptionStartTime userId plan.id now).1 plan = .ok endTime ∧
    after.subs = before.subs.create
      (newSubscription loc before userId plan source now endTime)
      (newSubscription_id loc before userId plan source now endTime)
  group : ∀ other, after.getUserGroupById other =
    if other = userId ∧ (before.users.find? userId).isSome ∧ Text.trimSpace plan.upgradeGroup ≠ "" ∧
        (before.nextSubscriptionStartTime userId plan.id now).1 ≤ now then
      Text.trimSpace plan.upgradeGroup
    else before.getUserGroupById other
  users : ∀ other, (after.users.find? other).isSome = (before.users.find? other).isSome
  plans : after.plans = before.plans

def SameQuotas (before after : Table User.id) : Prop :=
  ∀ userId, (after.find? userId).map User.quota = (before.find? userId).map User.quota

theorem setUserGroup_quotas (store : Store) (userId : Int) (group : String) :
    SameQuotas store.users (store.setUserGroup userId group).users := by
  intro other
  rw [Store.setUserGroup]
  rw [Table.find?_update, Option.map_map]
  congr 1
  funext user
  simp only [Function.comp]
  split <;> rfl

theorem upgradedUsers_quotas (store : Store) (userId : Int) (plan : SubscriptionPlan)
    (startTime now : Int) :
    SameQuotas store.users (store.upgradedUsers userId plan startTime now) := by
  unfold Store.upgradedUsers
  simp only
  split
  · exact setUserGroup_quotas store userId _
  · exact fun _ => rfl

variable {id : Int} {source : Source}

theorem createLocked_ok
    (done : createUserSubscriptionFromPlanLocked loc store userId plan source now =
      .ok (id, next)) :
    Created loc store next userId plan source now ∧
      (∃ startTime subs, next = { store with
        users := store.upgradedUsers userId plan startTime now, subs := subs }) ∧
      id = store.subs.next := by
  unfold createUserSubscriptionFromPlanLocked at done
  iterate 3
    split at done
    · cases done
  split at done
  · cases done
  simp only at done
  split at done
  · cases done
  rename_i endTime ends
  cases done
  refine ⟨?_, ⟨_, _, rfl⟩, rfl⟩
  constructor
  case user => omega
  case planId => omega
  case room => omega
  case subs => exact ⟨endTime, ends, rfl⟩
  case group =>
    intro other
    have changed := store.getUserGroupById_setUserGroup userId
      (Text.trimSpace plan.upgradeGroup) other
    unfold Store.upgradedUsers
    generalize Text.trimSpace plan.upgradeGroup = group at changed ⊢
    simp only
    split
    next applies =>
      obtain ⟨nonempty, -, started⟩ := applies
      refine changed.trans ?_
      simp [nonempty, started]
    rename_i stays
    split
    next applies =>
      obtain ⟨rfl, -, nonempty, started⟩ := applies
      have same : store.getUserGroupById other = group := by
        by_contra different
        exact stays ⟨nonempty, different, started⟩
      exact same
    next => rfl
  case users =>
    intro other
    unfold Store.upgradedUsers
    simp only
    split
    · rw [Store.setUserGroup, Table.find?_update, Option.isSome_map]
    · rfl
  case plans => rfl

theorem create_ok
    (done : createUserSubscriptionFromPlan loc store userId plan source now = .ok (id, next)) :
    Created loc store next userId plan source now ∧ next.orders = store.orders ∧
      id = store.subs.next ∧ (store.users.find? userId).isSome := by
  simp only [createUserSubscriptionFromPlan, check_ok] at done
  obtain ⟨-, -, done⟩ := done
  split at done
  · cases done
  rename_i locked
  obtain ⟨created, ⟨_, _, frame⟩, idEq⟩ := createLocked_ok done
  refine ⟨created, by rw [frame], idEq, ?_⟩
  unfold Store.lockSubscriptionPurchaseUser at locked
  split at locked
  · cases locked
  split at locked
  · assumption
  · cases locked

/-- A creation does not depend on the other tables of the two stores. -/
theorem Created.congr {before after before' after' : Store}
    (created : Created loc before after userId plan source now)
    (subsBefore : before.subs = before'.subs)
    (groupBefore : ∀ other, before.getUserGroupById other =
      before'.getUserGroupById other) (usersBefore : ∀ other, (before.users.find? other).isSome =
      (before'.users.find? other).isSome) (plansBefore : before.plans = before'.plans)
    (subsAfter : after'.subs = after.subs) (usersAfter : after'.users = after.users)
    (plansAfter : after'.plans = after.plans) :
    Created loc before' after' userId plan source now := by
  have start : before'.nextSubscriptionStartTime userId plan.id now =
      before.nextSubscriptionStartTime userId plan.id now := by
    simp only [Store.nextSubscriptionStartTime, subsBefore]
  obtain ⟨endTime, ends, subsEq⟩ := created.subs
  refine ⟨created.user, created.planId, ?_, ⟨endTime, ?_, ?_⟩, ?_, ?_, ?_⟩
  · simpa only [Store.subscriptionCount, subsBefore] using created.room
  · rw [start]
    exact ends
  · have row : newSubscription loc before userId plan source now endTime =
        newSubscription loc before' userId plan source now endTime := by
      funext id
      simp only [newSubscription, start, groupBefore]
    rw [subsAfter, subsEq]
    simp only [row, subsBefore]
  · intro other
    have group := created.group other
    rw [usersBefore, groupBefore] at group
    rw [start, ← group]
    simp only [Store.getUserGroupById, usersAfter]
  · intro other
    rw [usersAfter, created.users, usersBefore]
  · rw [plansAfter, created.plans, plansBefore]

/-! ## Orders -/

theorem upsertSubscriptionTopUp_ok (done : upsertSubscriptionTopUp store order now = .ok next) :
    ∃ topUps, next = { store with topUps := topUps } := by
  unfold upsertSubscriptionTopUp at done
  simp only at done
  split at done
  · split at done
    · cases done
    · cases done
      exact ⟨_, rfl⟩
  · split at done
    · cases done
    split at done
    · cases done
    · cases done
      exact ⟨_, rfl⟩

theorem createOrder_ok (done : createOrder store order now = .ok next) :
    ∃ orders topUps, store.orders.insert? order = some orders ∧
      next = { store with orders := orders, topUps := topUps } := by
  unfold createOrder at done
  split at done
  · cases done
  next orders inserted =>
    obtain ⟨topUps, rfl⟩ := upsertSubscriptionTopUp_ok done
    exact ⟨orders, topUps, inserted, rfl⟩

/-- The top-up row of a new order. -/
def SubscriptionOrder.mirror (order : SubscriptionOrder) (now : Int) : TopUp where
  tradeNo := order.tradeNo
  userId := order.userId
  money := order.money
  fee := order.fee
  paymentMethod := order.paymentMethod
  paymentProvider := order.paymentProvider
  createTime := order.createTime
  completeTime := order.mirroredCompleteTime now
  status := order.status

variable {completion : Completion} {tradeNo : String} {settings : PaymentSettings} {planId : Int}

/-- Completing an order that is not paid yet creates its subscription; a paid one is
left alone. -/
theorem completeSubscriptionOrder_ok
    (done : completeSubscriptionOrder loc codec store completion = .ok next) :
    next = store ∨ ∃ order plan id, store.orders.find? completion.tradeNo = some order ∧
      order.completable = true ∧ store.getSubscriptionPlanById order.planId = .ok plan ∧
      Created loc store next order.userId plan .order completion.now ∧
      next.orders = store.orders.save (order.complete codec completion id) := by
  unfold completeSubscriptionOrder at done
  split at done
  · cases done
  split at done
  · cases done
  rename_i order found
  split at done
  · cases done
  split at done
  · cases done
    exact .inl rfl
  obtain ⟨completable, done⟩ := check_ok.mp done
  unfold completeOrder at done
  split at done
  · cases done
  rename_i plan planned
  split at done
  · cases done
  rename_i id created done'
  obtain ⟨creation, ordersEq, -, -⟩ := create_ok done'
  simp only at done
  split at done
  · cases done
  rename_i mirrored upserted
  obtain ⟨_, rfl⟩ := upsertSubscriptionTopUp_ok upserted
  split at done
  · cases done
  · cases done
    refine .inr ⟨order, plan, id, found, by simpa using completable, planned, ?_,
      by rw [← ordersEq]⟩
    exact creation.congr rfl (fun _ => rfl) (fun _ => rfl) rfl rfl rfl rfl

theorem expireSubscriptionOrder_ok {expected : Option PaymentProvider}
    (done : expireSubscriptionOrder store tradeNo expected now = .ok next) :
    next = store ∨ ∃ order topUps, store.orders.find? tradeNo = some order ∧
      order.status = .pending ∧
      next = { store with
        orders := store.orders.save { order with status := .expired, completeTime := now }
        topUps := topUps } := by
  unfold expireSubscriptionOrder at done
  split at done
  · cases done
  split at done
  · cases done
  rename_i order found
  split at done
  · cases done
  split at done
  · cases done
    exact .inl rfl
  next pending =>
    obtain ⟨topUps, rfl⟩ := upsertSubscriptionTopUp_ok done
    exact .inr ⟨order, topUps, found, not_not.mp pending, rfl⟩

/-! ## Purchases -/

/-- An order that is paid from the start was added. -/
def PaidOrder (before after : Store) : Prop :=
  ∃ paid, paid.status = .success ∧ before.orders.insert? paid = some after.orders

theorem createPaid_ok (done : createPaid loc codec store plan order now = .ok next) :
    Created loc store next order.userId plan .order now ∧ PaidOrder store next := by
  unfold createPaid at done
  split at done
  · cases done
  rename_i id created done'
  obtain ⟨creation, ⟨_, _, frame⟩, -⟩ := createLocked_ok done'
  have ordersEq : created.orders = store.orders := by rw [frame]
  obtain ⟨_, _, inserted, rfl⟩ := createOrder_ok done
  rw [ordersEq] at inserted
  refine ⟨?_, _, rfl, inserted⟩
  exact creation.congr rfl (fun _ => rfl) (fun _ => rfl) rfl rfl rfl rfl

/-- The order of a payment that is already made. -/
def SubscriptionOrder.paid (order : SubscriptionOrder) (codec : PayloadCodec)
    (subscriptionId now : Int) : SubscriptionOrder :=
  { order with
    status := .success
    createTime := now
    completeTime := now
    providerPayload :=
      providerPayloadWithSubscriptionId codec order.providerPayload subscriptionId }

theorem createPaid_fresh (fresh : store.topUps.find? order.tradeNo = none)
    (done : createPaid loc codec store plan order now = .ok next) :
    ∃ startTime endTime orders topUps,
      store.orders.insert? (order.paid codec store.subs.next now) = some orders ∧
      store.topUps.insert? ((order.paid codec store.subs.next now).mirror now) = some topUps ∧
      next = { store with
        users := store.upgradedUsers order.userId plan startTime now
        subs := store.subs.create (newSubscription loc store order.userId plan .order now endTime)
          (newSubscription_id loc store order.userId plan .order now endTime)
        orders := orders
        topUps := topUps } := by
  unfold createPaid at done
  split at done
  · cases done
  rename_i id created creating
  obtain ⟨creation, ⟨startTime, _, frame⟩, idEq⟩ := createLocked_ok creating
  obtain ⟨endTime, -, subsEq⟩ := creation.subs
  have topUpsEq : created.topUps = store.topUps := by rw [frame]
  have ordersEq : created.orders = store.orders := by rw [frame]
  unfold createOrder at done
  split at done
  · cases done
  rename_i orders inserted
  rw [ordersEq, idEq] at inserted
  simp only [upsertSubscriptionTopUp, topUpsEq, idEq, fresh] at done
  split at done
  · cases done
  next topUps mirrored =>
    cases done
    refine ⟨startTime, endTime, orders, topUps, inserted, mirrored, ?_⟩
    rw [← subsEq, frame]

theorem chargeWallet_ok {requiredQuota : Int}
    (done : chargeWallet store userId requiredQuota = .ok next) :
    next = { store with users := next.users } ∧
      (∀ other, next.getUserGroupById other = store.getUserGroupById other) ∧
      (∀ other, (next.users.find? other).isSome = (store.users.find? other).isSome) ∧
      (store.users.find? userId).isSome := by
  unfold chargeWallet at done
  split at done
  · cases done
  rename_i user found
  have present : (store.users.find? userId).isSome := by simp [found]
  have userKey : user.id = userId := Table.find?_key found
  split at done
  · split at done
    · cases done
    · cases done
      have lookup : ∀ other, (store.users.save
          { user with quota := user.quota - requiredQuota }).find? other =
          if other = user.id then some { user with quota := user.quota - requiredQuota }
          else store.users.find? other := by
        intro other
        split
        next same =>
          rw [same, userKey]
          exact Table.find?_save found userKey.symm
        next different =>
          exact Table.find?_save_other store.users
            { user with quota := user.quota - requiredQuota } different
      refine ⟨rfl, ?_, ?_, present⟩
      · intro other
        simp only [Store.getUserGroupById, lookup]
        split
        next same => simp [same, userKey, found]
        next => rfl
      · intro other
        simp only [lookup]
        split
        next same => simp [same, userKey, found]
        next => rfl
  · cases done
    exact ⟨rfl, fun _ => rfl, fun _ => rfl, present⟩

theorem getSubscriptionPlanById_ok (done : store.getSubscriptionPlanById id = .ok plan) :
    0 < id ∧ plan.id = id ∧
      ∃ row, store.plans.find? id = some row ∧ plan = row.normalizeDefaults := by
  unfold Store.getSubscriptionPlanById at done
  split at done
  · cases done
  split at done
  · cases done
  next row found =>
    cases done
    have rowKey : row.id = id := Table.find?_key found
    exact ⟨by omega, rowKey, row, found, rfl⟩

theorem balance_ok
    (done : purchaseSubscriptionWithBalance loc codec settings store userId planId
      tradeNo now = .ok next) :
    ∃ plan, store.getSubscriptionPlanById planId = .ok plan ∧
      Created loc store next userId plan .order now ∧ PaidOrder store next ∧
      (store.users.find? userId).isSome := by
  unfold purchaseSubscriptionWithBalance at done
  split at done
  · cases done
  split at done
  · cases done
  rename_i plan planned
  simp only [check_ok] at done
  obtain ⟨-, -, -, done⟩ := done
  split at done
  · cases done
  split at done
  · cases done
  rename_i charged wallet
  obtain ⟨frame, groups, users, present⟩ := chargeWallet_ok wallet
  obtain ⟨created, paid⟩ := createPaid_ok done
  have sameSubs : charged.subs = store.subs := by rw [frame]
  have samePlans : charged.plans = store.plans := by rw [frame]
  have sameOrders : charged.orders = store.orders := by rw [frame]
  refine ⟨plan, planned, ?_, ?_, present⟩
  · exact created.congr sameSubs groups users samePlans rfl rfl rfl
  · rw [PaidOrder, ← sameOrders]
    exact paid

theorem selfServe_ok {purchase : SelfServePurchase}
    (done : purchaseSubscriptionWithSelfServe loc codec settings store purchase = .ok next) :
    ∃ plan, store.getSubscriptionPlanById purchase.planId = .ok plan ∧
      Created loc store next purchase.userId plan .order purchase.now ∧
      PaidOrder store next ∧ (store.users.find? purchase.userId).isSome := by
  unfold purchaseSubscriptionWithSelfServe at done
  split at done
  · cases done
  split at done
  · cases done
  simp only at done
  iterate 3
    split at done
    · cases done
  rename_i plan planned
  simp only [check_ok] at done
  obtain ⟨-, -, -, done⟩ := done
  split at done
  · cases done
  split at done
  · cases done
  refine ⟨plan, planned, ?_⟩
  simp only [createSelfServe, check_ok] at done
  obtain ⟨-, present, done⟩ := done
  split at done
  · cases done
  rename_i paidStore paying
  split at done
  · cases done
  cases done
  obtain ⟨created, paid⟩ := createPaid_ok paying
  refine ⟨?_, paid, by simpa [Option.isNone_iff_eq_none,
    Option.isSome_iff_ne_none] using present⟩
  exact created.congr rfl (fun _ => rfl) (fun _ => rfl) rfl rfl rfl rfl

theorem adminBind_ok (done : adminBindSubscription loc store userId planId now = .ok next) :
    ∃ plan, store.getSubscriptionPlanById planId = .ok plan ∧
      Created loc store next userId plan .admin now ∧ next.orders = store.orders ∧
      (store.users.find? userId).isSome := by
  unfold adminBindSubscription at done
  split at done
  · cases done
  split at done
  · cases done
  rename_i plan planned
  cases called : createUserSubscriptionFromPlan loc store userId plan .admin now with
  | error => simp [called, Except.map] at done
  | ok pair =>
    simp only [called, Except.map, Except.ok.injEq] at done
    subst done
    obtain ⟨creation, ordersEq, -, present⟩ := create_ok called
    exact ⟨plan, planned, creation, ordersEq, present⟩

theorem insertSubscriptionOrder_ok (done : insertSubscriptionOrder store order now = .ok next) :
    ∃ orders topUps, reserveSubscriptionPurchaseSlot store (order.stamp now) = .ok () ∧
      store.orders.insert? (order.stamp now) = some orders ∧
      next = { store with orders := orders, topUps := topUps } := by
  unfold insertSubscriptionOrder at done
  split at done
  · cases done
  next reserved =>
    obtain ⟨orders, topUps, inserted, rfl⟩ := createOrder_ok done
    exact ⟨orders, topUps, reserved, inserted, rfl⟩

theorem purchase_ok {shop : Shop} {op : PurchaseOp} (done : op.commit shop store = .ok next) :
    (next.subs = store.subs ∧ next.users = store.users ∧ next.plans = store.plans) ∨
      ∃ userId planId plan source, op.buys store = some (userId, planId) ∧
        store.getSubscriptionPlanById planId = .ok plan ∧
        Created shop.loc store next userId plan source op.now := by
  cases op with
  | insert =>
    obtain ⟨_, _, -, -, rfl⟩ := insertSubscriptionOrder_ok done
    exact .inl ⟨rfl, rfl, rfl⟩
  | complete =>
    rcases completeSubscriptionOrder_ok done with rfl |
      ⟨order, plan, _, found, completable, planned, created, -⟩
    · exact .inl ⟨rfl, rfl, rfl⟩
    · refine .inr ⟨order.userId, order.planId, plan, .order, ?_, planned, created⟩
      simp [PurchaseOp.buys, found, completable]
  | expire =>
    rcases expireSubscriptionOrder_ok done with rfl | ⟨_, _, -, -, rfl⟩
    · exact .inl ⟨rfl, rfl, rfl⟩
    · exact .inl ⟨rfl, rfl, rfl⟩
  | balance userId planId =>
    obtain ⟨plan, planned, created, -⟩ := balance_ok done
    exact .inr ⟨userId, planId, plan, .order, rfl, planned, created⟩
  | selfServe purchase =>
    obtain ⟨plan, planned, created, -⟩ := selfServe_ok done
    exact .inr ⟨purchase.userId, purchase.planId, plan, .order, rfl, planned, created⟩
  | adminBind userId planId =>
    obtain ⟨plan, planned, created, -⟩ := adminBind_ok done
    exact .inr ⟨userId, planId, plan, .admin, rfl, planned, created⟩

end StuHelper.Subscription
