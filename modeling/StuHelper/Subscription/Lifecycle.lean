import Mathlib.Data.List.Dedup
import StuHelper.Subscription.Purchase

/-!
# What happens to a subscription after its creation

An administrator invalidates or deletes a row, a refund cancels the row of its order
and a refund that failed brings it back, and two maintenance tasks expire the rows
that have ended and move users into the group of a queued row that has started.

Whenever a row with an upgrade group stops, the user may be given back the group they
had before.  Each place that does so has its own rule for the target, and each rule
yields to another running row with an upgrade group.
-/

namespace StuHelper.Subscription

open Lib

/-! ## Giving a group back -/

def UserSubscription.upgradesAt (sub : UserSubscription) (now : Int) : Bool :=
  sub.runsAt now && sub.upgradeGroup ≠ ""

namespace Store

/-- Move a user into a group, if one was chosen. -/
def moveUser (store : Store) (userId : Int) : Option String → Store
  | none => store
  | some group => store.setUserGroup userId group

/-- The running row with an upgrade group that ends last. -/
def topUpgrade (store : Store) (userId now : Int) : Option UserSubscription :=
  selectFirst (Descending UserSubscription.endTime UserSubscription.id)
    (fun sub => sub.userId = userId && sub.upgradesAt now) store.subs.rows

/-- The group in which `downgradeUserGroupForSubscriptionTx` puts the user. -/
def downgradeTarget (store : Store) (sub : UserSubscription) (now : Int) : Option String :=
  let downgradeGroup := Text.trimSpace sub.downgradeGroup
  let upgradeGroup := Text.trimSpace sub.upgradeGroup
  let currentGroup := store.getUserGroupById sub.userId
  if store.subs.rows.any fun other =>
      other.userId = sub.userId && other.upgradesAt now && other.id ≠ sub.id then none
  else if downgradeGroup = "" ∧ currentGroup ≠ upgradeGroup then none
  else
    let target :=
      if downgradeGroup = "" then Text.trimSpace sub.prevUserGroup else downgradeGroup
    if target = "" ∨ target = currentGroup then none else some target

end Store

/-- `downgradeUserGroupForSubscriptionTx`. -/
def downgradeUserGroupForSubscription (store : Store) (sub : UserSubscription)
    (now : Int) : Except SubscriptionError Store :=
  if Text.trimSpace sub.downgradeGroup = "" ∧ Text.trimSpace sub.upgradeGroup = "" then
    .ok store
  else if sub.userId ≤ 0 then .error .invalidUserId
  else .ok (store.moveUser sub.userId (store.downgradeTarget sub now))

/-! ## Administration -/

def adminInvalidateUserSubscription (store : Store) (id now : Int) :
    Except SubscriptionError Store :=
  if id ≤ 0 then .error .invalidUserSubscriptionId
  else
    match store.subs.find? id with
    | none => .error .recordNotFound
    | some sub =>
      let ended := { sub with status := .cancelled, endTime := now }
      downgradeUserGroupForSubscription (store.saveSub ended) ended now

def adminDeleteUserSubscription (store : Store) (id now : Int) : Except SubscriptionError Store :=
  if id ≤ 0 then .error .invalidUserSubscriptionId
  else
    match store.subs.find? id with
    | none => .error .recordNotFound
    | some sub =>
      match downgradeUserGroupForSubscription store sub now with
      | .error error => .error error
      | .ok store => .ok { store with subs := store.subs.discard id }

/-! ## Expiry -/

/-- The order in which a loop over a map visits its keys: any order. -/
structure MapOrder where
  order : List Int → List Int
  perm : ∀ keys, (order keys).Perm keys

/-- The keys as they were inserted. -/
def MapOrder.inserted : MapOrder := ⟨id, fun _ => List.Perm.refl _⟩

/-- The default of a batch limit that is not positive. -/
def batchLimit (limit : Int) : Nat := if limit ≤ 0 then 200 else limit.toNat

def UserSubscription.expiryDue (sub : UserSubscription) (now : Int) : Bool :=
  sub.status = .active && 0 < sub.endTime && sub.endTime ≤ now

/-- The expiry of one row. -/
def UserSubscription.expire (sub : UserSubscription) (userId now : Int) : UserSubscription :=
  if sub.userId = userId && sub.expiryDue now then { sub with status := .expired }
  else sub

@[simp] theorem UserSubscription.expire_id (sub : UserSubscription)
    (userId now : Int) : (sub.expire userId now).id = sub.id := by
  unfold UserSubscription.expire
  split <;> rfl

namespace Store

def expireRows (store : Store) (userId now : Int) : Store :=
  { store with
    subs := store.subs.update (fun sub => sub.expire userId now)
      (fun sub => sub.expire_id userId now) }

def lastExpired (store : Store) (userId : Int) : Option UserSubscription :=
  selectFirst (Descending UserSubscription.endTime UserSubscription.id)
    (fun sub => sub.userId = userId && sub.status = .expired &&
      (sub.downgradeGroup ≠ "" || sub.upgradeGroup ≠ "")) store.subs.rows

/-- The group in which an expiry puts the user. -/
def expiryTarget (store : Store) (userId now : Int) : Option String :=
  if (store.topUpgrade userId now).isSome then none
  else
    match store.lastExpired userId with
    | none => none
    | some last =>
      let downgradeGroup := Text.trimSpace last.downgradeGroup
      let upgradeGroup := Text.trimSpace last.upgradeGroup
      let prevGroup := Text.trimSpace last.prevUserGroup
      let currentGroup := store.getUserGroupById userId
      if downgradeGroup = "" ∧
          (upgradeGroup = "" ∨ prevGroup = "" ∨ currentGroup ≠ upgradeGroup) then none
      else
        let target := if downgradeGroup = "" then prevGroup else downgradeGroup
        if target = currentGroup then none else some target

/-- The transaction of `ExpireDueSubscriptions` for one user. -/
def expireUser (store : Store) (userId now : Int) : Store :=
  let expired := store.expireRows userId now
  expired.moveUser userId (expired.expiryTarget userId now)

/-- Number of rows that `expireUser` expires. -/
def expiryCount (store : Store) (userId now : Int) : Nat :=
  store.subs.rows.countP fun sub => sub.userId = userId && sub.expiryDue now

def expiryUsers (store : Store) (limit now : Int) : List Int :=
  ((((select (Ascending UserSubscription.endTime UserSubscription.id)
    (fun sub => sub.expiryDue now) store.subs.rows).take (batchLimit limit)).map
      UserSubscription.userId).filter fun userId => 0 < userId).dedup

end Store

/-- The loop of `ExpireDueSubscriptions` over the users: the number of expired rows and
the store. -/
def expireUsers (now : Int) (state : Nat × Store) (userIds : List Int) : Nat × Store :=
  userIds.foldl (fun state userId =>
    (state.1 + state.2.expiryCount userId now, state.2.expireUser userId now)) state

def expireDueSubscriptions (store : Store) (limit now : Int) (map : MapOrder) : Nat × Store :=
  expireUsers now (0, store) (map.order (store.expiryUsers limit now))

/-! ## Queued rows that start -/

/-- A row that the query of `ApplyStartedSubscriptionUpgradeGroups` finds: it runs, no
running row of the user ends later, and the user is in another group. -/
def Store.awaitsUpgrade (store : Store) (now : Int) (sub : UserSubscription) : Bool :=
  sub.upgradesAt now &&
    ((store.users.find? sub.userId).any fun user => user.group ≠ sub.upgradeGroup) &&
    !store.subs.rows.any fun newer =>
      newer.userId = sub.userId && newer.upgradesAt now &&
        (newer.endTime > sub.endTime ||
          (newer.endTime = sub.endTime && newer.id > sub.id))

/-- The group in which a started row puts the user. -/
def Store.startedTarget (store : Store) (userId now : Int) : Option String :=
  match store.topUpgrade userId now with
  | none => none
  | some selected =>
    let targetGroup := Text.trimSpace selected.upgradeGroup
    if targetGroup = "" ∨ store.getUserGroupById userId = targetGroup then none
    else some targetGroup

/-- The users of the first rows that await their upgrade.  Each user has one such row,
so the order by end and id inside a user does not matter. -/
def Store.startedUsers (store : Store) (limit now : Int) : List Int :=
  ((select (Ascending UserSubscription.userId fun sub => -sub.endTime)
    (store.awaitsUpgrade now) store.subs.rows).take (batchLimit limit)).map
      UserSubscription.userId

/-- The transaction for one user: the number of applied upgrades and the store. -/
def applyStarted (now : Int) (state : Nat × Store) (userId : Int) : Nat × Store :=
  if userId ≤ 0 then state
  else
    match state.2.startedTarget userId now with
    | none => state
    | some group => (state.1 + 1, state.2.setUserGroup userId group)

def applyStartedSubscriptionUpgradeGroups (store : Store) (limit now : Int) : Nat × Store :=
  (store.startedUsers limit now).foldl (applyStarted now) (0, store)

/-! ## Refunds of an order -/

/-- `findRefundableUserSubscriptionForOrderTx`. -/
def findRefundableUserSubscriptionForOrder (codec : PayloadCodec) (store : Store)
    (order : SubscriptionOrder) : Option UserSubscription :=
  let ofOrder := fun sub : UserSubscription =>
    sub.userId = order.userId && sub.planId = order.planId && sub.source = .order
  let named := (providerPayloadSubscriptionID codec order.providerPayload).bind fun id =>
    (store.subs.find? id).filter ofOrder
  let first := selectFirst (Ascending UserSubscription.id UserSubscription.id)
    (fun sub => ofOrder sub && sub.createdAt ≥ order.completeTime) store.subs.rows
  let last := selectFirst (Descending UserSubscription.id UserSubscription.id)
    ofOrder store.subs.rows
  named.or (first.or last)

/-- A call of `syncSubscriptionOrderRefundStateTx`. -/
structure RefundSync where
  tradeNo : String
  expectedPaymentProvider : Option PaymentProvider := none
  fullRefund : Bool := false
  now : Int
  /-- The bookkeeping of referral commissions or of the inviter's reward fails. -/
  bookkeepingFails : Bool := false

def refundStatus (refundedMoney orderMoney : ℚ) (fullRefund : Bool) : PaymentStatus :=
  if refundedMoney > 0 ∧ (fullRefund ∨ ¬ refundedMoney < orderMoney) then .refunded
  else if refundedMoney > 0 then .partialRefunded
  else .success

/-- Cancel the subscription of a refunded order, or bring it back.  The group of a row
that comes back is written to the cache only. -/
def syncSubscription (store : Store) (sub : UserSubscription) (status : PaymentStatus)
    (now : Int) : Except SubscriptionError Store :=
  if status = .refunded ∨ status = .partialRefunded then
    downgradeUserGroupForSubscription
      (store.saveSub { sub with status := .cancelled }) sub now
  else if status = .success ∧ sub.status = .cancelled then
    .ok (store.saveSub { sub with status := .active })
  else .ok store

/-- The refund state of an order whose top-up row was found. -/
def syncOrder (codec : PayloadCodec) (store : Store) (order : SubscriptionOrder)
    (topUp : TopUp) (sync : RefundSync) : Except SubscriptionError Store :=
  let orderMoney := Decimal.round 2 order.money
  let refundedMoney := Decimal.round 2 topUp.refundedMoney
  if refundedMoney > orderMoney then .error .refundExceedsPayment
  else
    let status := refundStatus refundedMoney orderMoney sync.fullRefund
    let order := { order with
      status := status
      completeTime := if status ≠ .success then sync.now else order.completeTime }
    let topUp := { topUp with
      status := status
      refundedMoney := refundedMoney
      refundedQuota :=
        if order.paymentProvider ≠ .balance ∧ topUp.paymentProvider ≠ .balance then 0
        else topUp.refundedQuota }
    if sync.bookkeepingFails then .error .storeFailure
    else
      let store := { store with
        orders := store.orders.save order, topUps := store.topUps.save topUp }
      match findRefundableUserSubscriptionForOrder codec store order with
      | none => .ok store
      | some sub => syncSubscription store sub status sync.now

/-- `syncSubscriptionOrderRefundStateTx`. -/
def syncSubscriptionOrderRefundState (codec : PayloadCodec) (store : Store)
    (sync : RefundSync) : Except SubscriptionError Store :=
  match store.orders.find? sync.tradeNo with
  | none => .error .orderNotFound
  | some order =>
    if providerMismatch sync.expectedPaymentProvider order.paymentProvider then
      .error .paymentMethodMismatch
    else if order.status ≠ .success ∧ order.status ≠ .partialRefunded ∧
        order.status ≠ .refunded then .error .orderStatusInvalid
    else
      match store.topUps.find? sync.tradeNo with
      | none => .error .recordNotFound
      | some topUp => syncOrder codec store order topUp sync

/-! ## All operations -/

/-- The operations on subscriptions.  `bookRefund` is what the refund ledger of the
payment does to the row that a sync reads. -/
inductive LifecycleOp where
  | purchase (op : PurchaseOp)
  | invalidate (id now : Int)
  | delete (id now : Int)
  | expireDue (limit now : Int) (map : MapOrder)
  | applyStarted (limit now : Int)
  | bookRefund (tradeNo : String) (refundedMoney : ℚ)
  | syncRefund (sync : RefundSync)

/-- The store after the refund ledger has moved the refunded money of a payment. -/
def Store.bookRefund (store : Store) (tradeNo : String) (refundedMoney : ℚ) : Store :=
  { store with
    topUps := store.topUps.update
      (fun topUp => if topUp.tradeNo = tradeNo then
        { topUp with refundedMoney := refundedMoney } else topUp)
      (by intro topUp; split <;> rfl) }

/-- The store an operation commits, if it does. -/
def LifecycleOp.commit (shop : Shop) (store : Store) :
    LifecycleOp → Except SubscriptionError Store
  | .purchase op => op.commit shop store
  | .invalidate id now => adminInvalidateUserSubscription store id now
  | .delete id now => adminDeleteUserSubscription store id now
  | .expireDue limit now map => .ok (expireDueSubscriptions store limit now map).2
  | .applyStarted limit now => .ok (applyStartedSubscriptionUpgradeGroups store limit now).2
  | .bookRefund tradeNo refundedMoney => .ok (store.bookRefund tradeNo refundedMoney)
  | .syncRefund sync => syncSubscriptionOrderRefundState shop.codec store sync

/-- One operation; a failing transaction is rolled back. -/
def lifecycleStep (shop : Shop) (store : Store) (op : LifecycleOp) : Store :=
  match op.commit shop store with
  | .ok next => next
  | .error _ => store

end StuHelper.Subscription
