import StuHelper.Subscription.Lifecycle
import StuHelper.Subscription.PurchaseSteps

/-!
# What the lifecycle operations can do

Inversion lemmas for the operations of a subscription after its creation.  Each one
names the tables that change: a downgrade touches users only, an expiry is a map over
the rows of one user, and a sync either leaves the subscriptions alone or changes the
status of the one row that belongs to the order.
-/

namespace StuHelper.Subscription

variable {sub : UserSubscription} {codec : PayloadCodec} {sync : RefundSync}

open Lib

variable {store next : Store} {now userId : Int}

/-! ## Moving users -/

theorem moveUser_ok (store : Store) (userId : Int) (target : Option String) :
    ∃ users, store.moveUser userId target = { store with users := users } := by
  cases target with
  | none => exact ⟨store.users, rfl⟩
  | some group => exact ⟨(store.setUserGroup userId group).users, rfl⟩

theorem downgrade_ok (done : downgradeUserGroupForSubscription store sub now = .ok next) :
    ∃ users, SameQuotas store.users users ∧ next = { store with users := users } := by
  unfold downgradeUserGroupForSubscription at done
  split at done
  · cases done
    exact ⟨store.users, fun _ => rfl, rfl⟩
  split at done
  · cases done
  · cases done
    cases store.downgradeTarget sub now with
    | none => exact ⟨store.users, fun _ => rfl, rfl⟩
    | some group => exact ⟨_, setUserGroup_quotas store sub.userId group, rfl⟩

/-! ## Maintenance -/

theorem UserSubscription.expire_eq (sub : UserSubscription) (userId now : Int) :
    sub.expire userId now = sub ∨
      (sub.expire userId now = { sub with status := .expired } ∧
        sub.userId = userId ∧ sub.expiryDue now = true) := by
  unfold UserSubscription.expire
  split
  next due => exact .inr ⟨rfl, by simpa using due⟩
  next => exact .inl rfl

theorem UserSubscription.exists_expire_eq (sub : UserSubscription) (userId now : Int) :
    ∃ status, sub.expire userId now = { sub with status } := by
  rcases sub.expire_eq userId now with same | ⟨changed, -⟩
  · exact ⟨sub.status, same⟩
  · exact ⟨.expired, changed⟩

theorem UserSubscription.expire_of_active
    (active : (sub.expire userId now).status = .active) : sub.expire userId now = sub := by
  rcases sub.expire_eq userId now with same | ⟨changed, -⟩
  · exact same
  · rw [changed] at active
    cases active

theorem expireUser_ok (store : Store) (userId now : Int) :
    ∃ users, store.expireUser userId now = { store.expireRows userId now with users := users } :=
  moveUser_ok (store.expireRows userId now) userId _

theorem subs_expireUser (store : Store) (userId now : Int) :
    (store.expireUser userId now).subs.rows =
      store.subs.rows.map fun sub => sub.expire userId now := by
  obtain ⟨_, moved⟩ := expireUser_ok store userId now
  rw [moved]
  rfl

theorem plans_expireUser (store : Store) (userId now : Int) :
    (store.expireUser userId now).plans = store.plans := by
  obtain ⟨_, moved⟩ := expireUser_ok store userId now
  rw [moved]
  rfl

theorem mem_expireUser :
    sub ∈ (store.expireUser userId now).subs.rows ↔
      ∃ old ∈ store.subs.rows, old.expire userId now = sub := by
  rw [subs_expireUser]
  exact List.mem_map

theorem applyStarted_ok (now : Int) (userIds : List Int) (state : Nat × Store) :
    ∃ users, (userIds.foldl (applyStarted now) state).2 = { state.2 with users := users } := by
  refine List.foldlRecOn (motive := fun next : Nat × Store => ∃ users,
    next.2 = { state.2 with users := users }) _ _ ⟨state.2.users, rfl⟩ ?_
  rintro next ⟨users, moved⟩ userId -
  unfold applyStarted
  split
  · exact ⟨users, moved⟩
  split
  · exact ⟨users, moved⟩
  next group _ =>
    rw [moved]
    exact ⟨({ state.2 with users := users }.setUserGroup userId group).users, rfl⟩

theorem applyStarted_subs (store : Store) (limit now : Int) :
    (applyStartedSubscriptionUpgradeGroups store limit now).2.subs = store.subs := by
  obtain ⟨_, moved⟩ := applyStarted_ok now (store.startedUsers limit now) (0, store)
  rw [applyStartedSubscriptionUpgradeGroups, moved]

/-! ## Refunds -/

theorem refundStatus_eq_success {refundedMoney orderMoney : ℚ} {fullRefund : Bool} :
    refundStatus refundedMoney orderMoney fullRefund = .success ↔ refundedMoney ≤ 0 := by
  unfold refundStatus
  by_cases positive : refundedMoney > 0
  · have unpaid : ¬ refundedMoney ≤ 0 := not_le.mpr positive
    simp only [positive, true_and, if_true, unpaid, iff_false]
    split <;> simp
  · simp only [positive, false_and, if_false, true_iff]
    exact not_lt.mp positive

theorem findRefundable_mem {order : SubscriptionOrder}
    (found : findRefundableUserSubscriptionForOrder codec store order = some sub) :
    sub ∈ store.subs.rows ∧ sub.userId = order.userId ∧ sub.planId = order.planId := by
  unfold findRefundableUserSubscriptionForOrder at found
  simp only [Option.or_eq_some_iff] at found
  rcases found with named | ⟨-, first | ⟨-, last⟩⟩
  · obtain ⟨_, -, filtered⟩ := Option.bind_eq_some_iff.mp named
    obtain ⟨stored, own⟩ := Option.filter_eq_some_iff.mp filtered
    simp only [Bool.and_eq_true, decide_eq_true_eq] at own
    exact ⟨Table.find?_mem stored, own.1.1, own.1.2⟩
  · obtain ⟨member, own⟩ := selectFirst_mem first
    simp only [Bool.and_eq_true, decide_eq_true_eq] at own
    exact ⟨member, own.1.1.1, own.1.1.2⟩
  · obtain ⟨member, own⟩ := selectFirst_mem last
    simp only [Bool.and_eq_true, decide_eq_true_eq] at own
    exact ⟨member, own.1.1, own.1.2⟩

/-- A sync found no refunded money for this order, so it brings back the cancelled
subscription of the order. -/
structure Reactivates (codec : PayloadCodec) (store : Store) (tradeNo : String)
    (sub : UserSubscription) : Prop where
  unrefunded : ∀ topUp, store.topUps.find? tradeNo = some topUp →
    Decimal.round 2 topUp.refundedMoney ≤ 0
  order : ∃ order, store.orders.find? tradeNo = some order ∧
    findRefundableUserSubscriptionForOrder codec store order = some sub
  cancelled : sub.status = .cancelled

inductive Synced (codec : PayloadCodec) (store next : Store) (tradeNo : String) : Prop
  | same (subs : next.subs = store.subs)
  | cancelled (sub : UserSubscription) (member : sub ∈ store.subs.rows)
      (subs : next.subs = store.subs.save { sub with status := .cancelled })
  | reactivated (sub : UserSubscription) (member : sub ∈ store.subs.rows)
      (reason : Reactivates codec store tradeNo sub)
      (subs : next.subs = store.subs.save { sub with status := .active })

namespace RefundSync

variable (sync : RefundSync) (order : SubscriptionOrder) (topUp : TopUp)

def status : PaymentStatus :=
  refundStatus (Decimal.round 2 topUp.refundedMoney) (Decimal.round 2 order.money)
    sync.fullRefund

def orderAfter : SubscriptionOrder :=
  { order with
    status := sync.status order topUp
    completeTime := if sync.status order topUp ≠ .success then sync.now
      else order.completeTime }

@[simp] theorem orderAfter_status :
    (sync.orderAfter order topUp).status = sync.status order topUp := rfl

def topUpAfter : TopUp :=
  { topUp with
    status := sync.status order topUp
    refundedMoney := Decimal.round 2 topUp.refundedMoney
    refundedQuota :=
      if order.paymentProvider ≠ .balance ∧ topUp.paymentProvider ≠ .balance then 0
      else topUp.refundedQuota }

end RefundSync

/-- What a sync asks of the rows that it finds. -/
structure RefundSync.Admits (sync : RefundSync) (order : SubscriptionOrder) (topUp : TopUp) :
    Prop where
  provider : providerMismatch sync.expectedPaymentProvider order.paymentProvider = false
  paid : order.status = .success ∨ order.status = .partialRefunded ∨ order.status = .refunded
  fits : Decimal.round 2 topUp.refundedMoney ≤ Decimal.round 2 order.money
  works : sync.bookkeepingFails = false

def UserSubscription.afterSync (sub : UserSubscription) (status : PaymentStatus) :
    UserSubscription :=
  if status = .refunded ∨ status = .partialRefunded then { sub with status := .cancelled }
  else if status = .success ∧ sub.status = .cancelled then { sub with status := .active }
  else sub

/-- A cancelled subscription can leave its group. -/
def UserSubscription.canDowngrade (sub : UserSubscription) : Prop :=
  (Text.trimSpace sub.downgradeGroup = "" ∧ Text.trimSpace sub.upgradeGroup = "") ∨ 0 < sub.userId

def Store.subsAfterSync (codec : PayloadCodec) (store : Store) (order : SubscriptionOrder) :
    Serial UserSubscription.id :=
  match findRefundableUserSubscriptionForOrder codec store order with
  | none => store.subs
  | some sub => store.subs.save (sub.afterSync order.status)

theorem canDowngrade_of_ok (done : downgradeUserGroupForSubscription store sub now = .ok next) :
    sub.canDowngrade := by
  unfold downgradeUserGroupForSubscription at done
  split at done
  next empty => exact .inl empty
  split at done
  · cases done
  next positive => exact .inr (not_le.mp positive)

theorem syncSubscription_writes {status : PaymentStatus} (member : sub ∈ store.subs.rows)
    (done : syncSubscription store sub status now = .ok next) :
    (status = .refunded ∨ status = .partialRefunded → sub.canDowngrade) ∧
      ∃ users, SameQuotas store.users users ∧ next =
        { store with subs := store.subs.save (sub.afterSync status), users := users } := by
  unfold syncSubscription at done
  unfold UserSubscription.afterSync
  split at done
  next refunded =>
    obtain ⟨users, kept, rfl⟩ := downgrade_ok done
    rw [if_pos refunded]
    exact ⟨fun _ => canDowngrade_of_ok done, users, kept, rfl⟩
  rename_i paid
  rw [if_neg paid]
  refine ⟨fun refunded => absurd refunded paid, store.users, fun _ => rfl, ?_⟩
  split at done
  next back =>
    cases done
    rw [if_pos back]
    rfl
  next same =>
    cases done
    rw [if_neg same, Serial.save_eq_self member]

def RefundSync.write (sync : RefundSync) (store : Store) (order : SubscriptionOrder)
    (topUp : TopUp) : Store :=
  { store with
    orders := store.orders.save (sync.orderAfter order topUp)
    topUps := store.topUps.save (sync.topUpAfter order topUp) }

theorem syncOrder_eq {order : SubscriptionOrder} {topUp : TopUp}
    (admits : sync.Admits order topUp) :
    syncOrder codec store order topUp sync =
      match findRefundableUserSubscriptionForOrder codec store (sync.orderAfter order topUp) with
      | none => .ok (sync.write store order topUp)
      | some sub => syncSubscription (sync.write store order topUp) sub
          (sync.status order topUp) sync.now := by
  simp only [syncOrder]
  rw [if_neg (not_lt.mpr admits.fits), admits.works, if_neg Bool.false_ne_true]
  rfl

section

variable (done : syncSubscriptionOrderRefundState codec store sync = .ok next)

include done

theorem admits_of_ok :
    ∃ order topUp, store.orders.find? sync.tradeNo = some order ∧
      store.topUps.find? sync.tradeNo = some topUp ∧ sync.Admits order topUp ∧
      syncOrder codec store order topUp sync = .ok next := by
  unfold syncSubscriptionOrderRefundState at done
  split at done
  · cases done
  rename_i order foundOrder
  simp only [check_ok] at done
  obtain ⟨provider, paid, done⟩ := done
  split at done
  · cases done
  rename_i topUp foundTopUp
  refine ⟨order, topUp, foundOrder, foundTopUp, ?_, done⟩
  simp only [syncOrder, check_ok] at done
  obtain ⟨fits, works, done⟩ := done
  simp only [ne_eq, not_and_or, not_not] at paid
  exact ⟨by simpa using provider, paid, not_lt.mp fits, by simpa using works⟩

theorem sync_writes :
    ∃ order topUp users, store.orders.find? sync.tradeNo = some order ∧
      store.topUps.find? sync.tradeNo = some topUp ∧ sync.Admits order topUp ∧
      (∀ sub, findRefundableUserSubscriptionForOrder codec store (sync.orderAfter order topUp) =
        some sub → sync.status order topUp = .refunded ∨
          sync.status order topUp = .partialRefunded → sub.canDowngrade) ∧
      SameQuotas store.users users ∧
      next = { sync.write store order topUp with
        subs := store.subsAfterSync codec (sync.orderAfter order topUp)
        users := users } := by
  obtain ⟨order, topUp, foundOrder, foundTopUp, admits, written⟩ := admits_of_ok done
  rw [syncOrder_eq admits] at written
  refine ⟨order, topUp, ?_⟩
  rw [Store.subsAfterSync]
  cases found : findRefundableUserSubscriptionForOrder codec store
      (sync.orderAfter order topUp) with
  | none =>
    rw [found] at written
    cases written
    exact ⟨store.users, foundOrder, foundTopUp, admits, by simp, fun _ => rfl, rfl⟩
  | some sub =>
    rw [found] at written
    have member : sub ∈ (sync.write store order topUp).subs.rows := (findRefundable_mem found).1
    obtain ⟨can, users, kept, rfl⟩ := syncSubscription_writes member written
    refine ⟨users, foundOrder, foundTopUp, admits, ?_, kept, rfl⟩
    rintro _ ⟨rfl⟩
    exact can

theorem sync_ok : Synced codec store next sync.tradeNo := by
  obtain ⟨order, topUp, _, foundOrder, foundTopUp, -, -, -, written⟩ := sync_writes done
  have subs : next.subs = store.subsAfterSync codec (sync.orderAfter order topUp) := by rw [written]
  rw [Store.subsAfterSync] at subs
  cases found : findRefundableUserSubscriptionForOrder codec store
      (sync.orderAfter order topUp) with
  | none =>
    rw [found] at subs
    exact .same subs
  | some sub =>
    have member := (findRefundable_mem found).1
    rw [found, RefundSync.orderAfter_status] at subs
    dsimp only at subs
    unfold UserSubscription.afterSync at subs
    split at subs
    · exact .cancelled sub member subs
    split at subs
    next back =>
      refine .reactivated sub member ⟨?_, ⟨order, foundOrder, ?_⟩, back.2⟩ subs
      · intro other foundOther
        rw [foundTopUp] at foundOther
        cases foundOther
        exact refundStatus_eq_success.mp back.1
      · rw [RefundSync.orderAfter, back.1] at found
        exact found
    · exact .same (subs.trans (Serial.save_eq_self member))

end

theorem sync_commits {order : SubscriptionOrder}
    {topUp : TopUp} (foundOrder : store.orders.find? sync.tradeNo = some order)
    (foundTopUp : store.topUps.find? sync.tradeNo = some topUp) (admits : sync.Admits order topUp)
    (can : ∀ sub, findRefundableUserSubscriptionForOrder codec store
        (sync.orderAfter order topUp) = some sub → sync.status order topUp = .refunded ∨
          sync.status order topUp = .partialRefunded → sub.canDowngrade) :
    ∃ next, syncSubscriptionOrderRefundState codec store sync = .ok next := by
  have paid : ¬ (order.status ≠ .success ∧ order.status ≠ .partialRefunded ∧
      order.status ≠ .refunded) := by
    simp only [ne_eq, not_and_or, not_not]
    exact admits.paid
  simp only [syncSubscriptionOrderRefundState, foundOrder, admits.provider, Bool.false_eq_true,
    if_false, if_neg paid, foundTopUp, syncOrder_eq admits]
  cases found : findRefundableUserSubscriptionForOrder codec store
      (sync.orderAfter order topUp) with
  | none => exact ⟨_, rfl⟩
  | some sub =>
    simp only [syncSubscription]
    split
    next refunded =>
      unfold downgradeUserGroupForSubscription
      split
      · exact ⟨_, rfl⟩
      next groups =>
        rw [if_neg ((can sub found refunded).resolve_left groups).not_ge]
        exact ⟨_, rfl⟩
    split
    · exact ⟨_, rfl⟩
    · exact ⟨_, rfl⟩

end StuHelper.Subscription
