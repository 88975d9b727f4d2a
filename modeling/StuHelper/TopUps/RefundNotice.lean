import StuHelper.Referral.RefundTarget
import StuHelper.TopUps.CreditOnce

/-!
# A provider reports a refund again

The success of an official refund is processed when the administrator's request returns and
again whenever the provider notifies.  Processing marks the refund row and syncs the
subscription order: its status, the top-up row, the subscription and the referral side.
The administrator may declare a partial refund to be full, but the notification does not
know of it.
-/

namespace StuHelper.TopUps

open Lib Subscription Referral Decimal UserSubscription WorldOp

/-- A success of a refund, as the administrator's request or the provider reports it. -/
structure RefundNotice where
  outRequestNo : String
  tradeNo : String
  paymentProvider : PaymentProvider
  refundAmount : ℚ
  allowFullRefund : Bool := false
  now : Int
  bookkeepingFails : Bool := false

/-- The sync that the success of a refund asks for, from the money of the top-up row. -/
def RefundNotice.sync (notice : RefundNotice) (topUp : Option TopUp) : RefundSync where
  tradeNo := Text.trimSpace notice.tradeNo
  expectedPaymentProvider := some notice.paymentProvider
  fullRefund := notice.allowFullRefund ||
    topUp.any fun topUp => orderMoney topUp ≤ refundedMoney topUp
  now := notice.now
  bookkeepingFails := notice.bookkeepingFails

/-- `syncOfficialSubscriptionRefundAfterSuccess`, with `RefundSubscriptionOrder`. -/
def syncOfficialSubscriptionRefundAfterSuccess (settings : ServerSettings) (world : World)
    (notice : RefundNotice) : Except TopUpError World :=
  match world.books.store.orders.find? notice.tradeNo with
  | none => .ok world
  | some _ =>
    if Text.trimSpace notice.tradeNo = "" then .error .tradeNoMissing
    else if ¬ 0 < round 2 notice.refundAmount then .error .refundAmountNotPositive
    else commit settings world
      (.sync (notice.sync (world.books.store.topUps.find? notice.tradeNo)))

/-- The two transactions of processing a success; the second does not undo the first. -/
def processRefundSuccess (settings : ServerSettings) (world : World) (notice : RefundNotice) :
    World :=
  match markTopUpRefundSuccess world.books notice.outRequestNo with
  | .error _ => world
  | .ok books =>
    match syncOfficialSubscriptionRefundAfterSuccess settings { world with books := books }
        notice with
    | .error _ => { world with books := books }
    | .ok next => next

/-- What must not change: the status of the order, the status and the refunded amounts of
the top-up, the status of the subscription and the referral side. -/
structure RefundView where
  order : Option PaymentStatus
  topUp : Option (PaymentStatus × ℚ × Int)
  subscription : Option SubscriptionStatus
  users : List Affiliate
  commissions : List ReferralCommission
  deriving DecidableEq

def World.refundView (world : World) (tradeNo : String) (subscriptionId : Int) : RefundView where
  order := (world.books.store.orders.find? tradeNo).map SubscriptionOrder.status
  topUp := (world.books.store.topUps.find? tradeNo).map fun topUp =>
    (topUp.status, topUp.refundedMoney, topUp.refundedQuota)
  subscription := (world.books.store.subs.find? subscriptionId).map status
  users := world.referrals.users.rows
  commissions := world.referrals.commissions.rows

/-- The flag of a sync says what the money says: no refund of a part is declared full. -/
def FlagAgrees (call : RefundSync) (order : SubscriptionOrder) (topUp : TopUp) : Prop :=
  0 < refundedMoney topUp → refundedMoney topUp < round 2 order.money →
    (call.fullRefund = true ↔ orderMoney topUp ≤ refundedMoney topUp)

/-! ## An order that is in sync -/

/-- The payload of the order names its subscription. -/
structure LinkedTo (codec : PayloadCodec) (store : Store) (order : SubscriptionOrder)
    (sub : UserSubscription) : Prop where
  named : providerPayloadSubscriptionID codec order.providerPayload = some sub.id
  found : store.subs.find? sub.id = some sub
  user : sub.userId = order.userId
  plan : sub.planId = order.planId
  source : sub.source = .order

/-- The rows of an order as a sync that found `status` leaves them. -/
structure InSync (codec : PayloadCodec) (world : World) (tradeNo : String)
    (status : PaymentStatus) (order : SubscriptionOrder) (topUp : TopUp)
    (sub : UserSubscription) : Prop where
  foundOrder : world.books.store.orders.find? tradeNo = some order
  foundTopUp : world.books.store.topUps.find? tradeNo = some topUp
  link : LinkedTo codec world.books.store order sub
  orderStatus : order.status = status
  topUpStatus : topUp.status = status
  cents : refundedMoney topUp = topUp.refundedMoney
  noQuota : topUp.refundedQuota = 0
  subStatus : (sub.afterSync status).status = sub.status
  commissions : 0 < round 2 order.money → AtTarget world.referrals .subscription tradeNo
    topUp.refundedMoney (round 2 order.money)
  reward : status = .refunded → ∀ columns, 0 < order.userId →
    world.referrals.reward order.userId = some columns → Reversible order.userId columns →
    inviteeHasEffectivePayment world.books.store order.userId

variable (sub : UserSubscription) (status : PaymentStatus)

theorem afterSync_afterSync : (sub.afterSync status).afterSync status = sub.afterSync status := by
  simp only [afterSync]
  split_ifs <;> simp_all

@[simp] theorem afterSync_id : (sub.afterSync status).id = sub.id := by
  simp only [afterSync]
  split_ifs <;> rfl

theorem afterSync_eq :
    sub.afterSync status = { sub with status := (sub.afterSync status).status } := by
  simp only [afterSync]
  split_ifs <;> rfl

section Sync

variable {settings : ServerSettings} {world next : World} {call : RefundSync}
  {order : SubscriptionOrder} {topUp : TopUp} {sub : UserSubscription}

variable {codec : PayloadCodec} {store : Store}

theorem LinkedTo.refundable_after (link : LinkedTo codec store order sub) (call : RefundSync)
    (topUp : TopUp) :
    findRefundableUserSubscriptionForOrder codec store (call.orderAfter order topUp) =
      some sub := by
  simp [findRefundableUserSubscriptionForOrder, RefundSync.orderAfter, link.named, link.found,
    link.user, link.plan, link.source]

theorem LinkedTo.synced (link : LinkedTo codec store order sub) (call : RefundSync)
    (topUp : TopUp) :
    store.subsAfterSync codec (call.orderAfter order topUp) =
      store.subs.save (sub.afterSync (call.status order topUp)) := by
  rw [Store.subsAfterSync, link.refundable_after]
  rfl

theorem sync_world (foundOrder : world.books.store.orders.find? call.tradeNo = some order)
    (foundTopUp : world.books.store.topUps.find? call.tradeNo = some topUp)
    (link : LinkedTo settings.refund.codec world.books.store order sub)
    (done : commit settings world (.sync call) = .ok next) :
    (call.status order topUp = .refunded ∨ call.status order topUp = .partialRefunded →
        sub.canDowngrade) ∧ call.Admits order topUp ∧
      ∃ users, next.books.store = { call.write world.books.store order topUp with
          subs := world.books.store.subs.save (sub.afterSync (call.status order topUp))
          users := users } ∧ next.books.refunds = world.books.refunds ∧
        next.referrals = referSync world.referrals next.books.store call.tradeNo := by
  simp only [commit] at done
  split at done
  · cases done
  next synced =>
  cases done
  obtain ⟨_, _, users, found, foundRow, admits, can, -, rfl⟩ := sync_writes synced
  cases foundOrder.symm.trans found
  cases foundTopUp.symm.trans foundRow
  refine ⟨can sub (link.refundable_after call topUp), admits, users, ?_, rfl, rfl⟩
  rw [← link.synced]
  rfl

theorem find?_orders_write (foundOrder : store.orders.find? call.tradeNo = some order) :
    (call.write store order topUp).orders.find? call.tradeNo =
      some (call.orderAfter order topUp) := Table.find?_save foundOrder rfl

theorem find?_topUps_write (foundTopUp : store.topUps.find? call.tradeNo = some topUp) :
    (call.write store order topUp).topUps.find? call.tradeNo =
      some (call.topUpAfter order topUp) := Table.find?_save foundTopUp rfl

theorem inSync_of_sync (foundOrder : world.books.store.orders.find? call.tradeNo = some order)
    (foundTopUp : world.books.store.topUps.find? call.tradeNo = some topUp)
    (link : LinkedTo settings.refund.codec world.books.store order sub)
    (paid : order.paymentProvider ≠ .balance ∧ topUp.paymentProvider ≠ .balance)
    (earned : ∀ row ∈ world.referrals.commissions.rows,
      row.isOf .subscription call.tradeNo → 0 ≤ row.commissionQuota)
    (done : commit settings world (.sync call) = .ok next) :
    InSync settings.refund.codec next call.tradeNo (call.status order topUp)
      (call.orderAfter order topUp) (call.topUpAfter order topUp)
      (sub.afterSync (call.status order topUp)) := by
  obtain ⟨-, -, _, store, -, referrals⟩ := sync_world foundOrder foundTopUp link done
  have orders := @find?_orders_write call order topUp _ foundOrder
  have topUps := @find?_topUps_write call order topUp _ foundTopUp
  have foundSub : next.books.store.subs.find? (sub.afterSync (call.status order topUp)).id =
      some (sub.afterSync (call.status order topUp)) := by
    rw [store, afterSync_id]
    exact Table.find?_save link.found (afterSync_id _ _)
  have ordersNext : next.books.store.orders.find? call.tradeNo =
      some (call.orderAfter order topUp) := by rw [store]; exact orders
  have topUpsNext : next.books.store.topUps.find? call.tradeNo =
      some (call.topUpAfter order topUp) := by rw [store]; exact topUps
  simp only [referSync, ordersNext, topUpsNext] at referrals
  generalize targetedEq : setReferralCommissionRefundTarget world.referrals .subscription
    call.tradeNo (call.topUpAfter order topUp).refundedMoney
    (round 2 (call.orderAfter order topUp).money) = targeted at referrals
  have commissions : next.referrals.commissions = targeted.commissions := by
    rw [referrals]
    split
    · exact commissions_reverseInviterReward _ _ _
    · rfl
  refine ⟨ordersNext, topUpsNext, ?_, rfl, rfl, ?_, if_pos paid,
    congrArg status (afterSync_afterSync _ _), ?_, ?_⟩
  · rw [afterSync_eq] at foundSub ⊢
    exact { link with found := foundSub }
  · exact round_of_hasPlaces (round_hasPlaces 2 _)
  · intro positive
    have reached := @setTarget_atTarget _ _ _ (call.topUpAfter order topUp).refundedMoney _
      earned positive
    rw [targetedEq] at reached
    rw [AtTarget, commissions]
    exact reached
  · intro refunded columns positive left reversible
    rw [RefundSync.orderAfter_status, if_pos refunded] at referrals
    rw [referrals] at left
    exact reverse_settles positive left reversible

theorem effectivePayment_save {saved : SubscriptionOrder} {userId : Int}
    (member : order ∈ store.orders.rows) (key : saved.tradeNo = order.tradeNo)
    (uncounted : order.status ≠ .success) (paid : inviteeHasEffectivePayment store userId) :
    inviteeHasEffectivePayment { store with orders := store.orders.save saved } userId := by
  unfold inviteeHasEffectivePayment at paid ⊢
  split
  next nobody => simp [nobody] at paid
  rename_i somebody
  rw [if_neg somebody, Bool.or_eq_true] at paid
  rw [Bool.or_eq_true]
  refine paid.imp id ?_
  intro counted
  obtain ⟨other, otherMember, counts⟩ := List.any_eq_true.mp counted
  refine List.any_eq_true.mpr ⟨other, Table.mem_save.mpr (.inr ⟨otherMember, ?_⟩), counts⟩
  intro sameKey
  rw [key] at sameKey
  rw [store.orders.eq_of_key_eq otherMember member sameKey] at counts
  simp [uncounted] at counts

theorem InSync.again {status : PaymentStatus}
    (inSync : InSync settings.refund.codec world call.tradeNo status order topUp sub)
    (paid : order.paymentProvider ≠ .balance ∧ topUp.paymentProvider ≠ .balance)
    (done : commit settings world (.sync call) = .ok next)
    (same : call.status order topUp = status) :
    next.refundView call.tradeNo sub.id = world.refundView call.tradeNo sub.id := by
  obtain ⟨-, -, _, store, -, referrals⟩ :=
    sync_world inSync.foundOrder inSync.foundTopUp inSync.link done
  have row : call.topUpAfter order topUp = topUp := by
    have cents : round 2 topUp.refundedMoney = topUp.refundedMoney := inSync.cents
    rw [RefundSync.topUpAfter, same, if_pos paid, cents, ← inSync.topUpStatus, ← inSync.noQuota]
  have topUps : next.books.store.topUps = world.books.store.topUps := by
    rw [store]
    change world.books.store.topUps.save (call.topUpAfter order topUp) = _
    rw [row]
    exact Table.save_eq_self (Table.find?_mem inSync.foundTopUp)
  have subs : next.books.store.subs = world.books.store.subs := by
    rw [store]
    rw [same, afterSync_eq, inSync.subStatus]
    exact Serial.save_eq_self (Table.find?_mem inSync.link.found)
  have ordersNext : next.books.store.orders.find? call.tradeNo =
      some (call.orderAfter order topUp) := by
    rw [store]
    exact find?_orders_write inSync.foundOrder
  have unreferred : next.referrals = world.referrals := by
    have targeted : setReferralCommissionRefundTarget world.referrals .subscription call.tradeNo
        topUp.refundedMoney (round 2 order.money) = world.referrals := by
      by_cases positive : 0 < round 2 order.money
      · exact setTarget_of_atTarget (inSync.commissions positive)
      · rw [setReferralCommissionRefundTarget, if_pos positive]
    have settled : call.status order topUp = .refunded →
        ∀ columns, 0 < order.userId → world.referrals.reward order.userId = some columns →
        Reversible order.userId columns →
        inviteeHasEffectivePayment next.books.store order.userId := by
      intro refunded columns positive reward reversible
      have paid := inSync.reward (same.symm.trans refunded) columns positive reward reversible
      have uncounted : order.status ≠ .success := by
        rw [inSync.orderStatus, ← same, refunded]
        decide
      have still := @effectivePayment_save order world.books.store (call.orderAfter order topUp)
        _ (Table.find?_mem inSync.foundOrder) rfl uncounted paid
      rw [inviteeHasEffectivePayment] at still ⊢
      rw [topUps, store]
      exact still
    have money : (call.orderAfter order topUp).money = order.money := rfl
    have userId : (call.orderAfter order topUp).userId = order.userId := rfl
    simp only [referSync, ordersNext, topUps, inSync.foundTopUp, money, userId, targeted,
      RefundSync.orderAfter_status] at referrals
    rw [referrals]
    split
    next refunded => rw [reverse_eq_self (settled refunded)]
    · rfl
  simp only [World.refundView, ordersNext, topUps, subs, unreferred, inSync.foundOrder,
    Option.map_some, RefundSync.orderAfter_status, same, inSync.orderStatus]

theorem InSync.moved {status : PaymentStatus}
    (inSync : InSync settings.refund.codec world call.tradeNo status order topUp sub)
    (done : commit settings world (.sync call) = .ok next)
    (other : call.status order topUp ≠ status) (subscriptionId : Int) :
    next.refundView call.tradeNo subscriptionId ≠ world.refundView call.tradeNo subscriptionId := by
  obtain ⟨-, -, _, store, -, -⟩ :=
    sync_world inSync.foundOrder inSync.foundTopUp inSync.link done
  intro same
  have orders : (next.books.store.orders.find? call.tradeNo).map SubscriptionOrder.status =
      (world.books.store.orders.find? call.tradeNo).map SubscriptionOrder.status :=
    congrArg RefundView.order same
  rw [store, inSync.foundOrder] at orders
  rw [find?_orders_write inSync.foundOrder, Option.map_some, Option.map_some, Option.some.injEq,
    RefundSync.orderAfter_status, inSync.orderStatus] at orders
  exact other orders

end Sync

/-! ## The status that a sync finds -/

theorem refundStatus_eq_iff {money paid : ℚ} {full other : Bool} :
    refundStatus money paid full = refundStatus money paid other ↔
      (0 < money → money < paid → full = other) := by
  simp only [refundStatus, gt_iff_lt]
  by_cases positive : 0 < money
  · by_cases part : money < paid
    · cases full <;> cases other <;> simp [positive, part]
    · simp [positive, part]
  · simp [positive]

theorem refundStatus_refunds_iff {money paid : ℚ} {full : Bool} :
    (refundStatus money paid full = .refunded ∨
      refundStatus money paid full = .partialRefunded) ↔ 0 < money := by
  simp only [refundStatus, gt_iff_lt]
  split_ifs <;> simp_all

/-! ## The next notification -/

def syncColumns (sub : UserSubscription) :
    Int × Int × Source × SubscriptionStatus × String × String :=
  (sub.userId, sub.planId, sub.source, sub.status, sub.upgradeGroup, sub.downgradeGroup)

/-- Nothing that a sync of the order reads has changed.  The reward of the user counts only
while the user has no payment left. -/
structure Untouched (after later : World) (tradeNo : String) (subscriptionId userId : Int) :
    Prop where
  order : later.books.store.orders.find? tradeNo = after.books.store.orders.find? tradeNo
  topUp : later.books.store.topUps.find? tradeNo = after.books.store.topUps.find? tradeNo
  subscription : (later.books.store.subs.find? subscriptionId).map syncColumns =
    (after.books.store.subs.find? subscriptionId).map syncColumns
  commissions : ∀ row ∈ later.referrals.commissions.rows, row.isOf .subscription tradeNo →
    row ∈ after.referrals.commissions.rows
  reward : inviteeHasEffectivePayment later.books.store userId = false →
    inviteeHasEffectivePayment after.books.store userId = false ∧
      later.referrals.reward userId = after.referrals.reward userId

/-- The provider reports, once more, the success of a refund that is known to have
succeeded, for the order of the last sync. -/
structure Redelivers (later : World) (last : RefundSync) (again : RefundNotice) : Prop where
  tradeNo : again.tradeNo = last.tradeNo
  trimmed : Text.trimSpace again.tradeNo = again.tradeNo
  named : again.tradeNo ≠ ""
  numbered : Text.trimSpace again.outRequestNo ≠ ""
  succeeded : ∃ refund, later.books.refunds.find? again.outRequestNo = some refund ∧
    refund.status = .success
  provider : last.expectedPaymentProvider = some again.paymentProvider
  amount : 0 < round 2 again.refundAmount
  unflagged : again.allowFullRefund = false
  works : again.bookkeepingFails = false

section Redelivery

variable {settings : ServerSettings} {before after later : World} {last : RefundSync}
  {again : RefundNotice} {order : SubscriptionOrder} {topUp : TopUp} {sub row : UserSubscription}

theorem Redelivers.sync_tradeNo (redelivers : Redelivers later last again) (row : Option TopUp) :
    (again.sync row).tradeNo = last.tradeNo :=
  redelivers.trimmed.trans redelivers.tradeNo

theorem InSync.of_untouched {codec : PayloadCodec} {tradeNo : String} {status : PaymentStatus}
    (inSync : InSync codec after tradeNo status order topUp sub)
    (untouched : Untouched after later tradeNo sub.id order.userId) :
    ∃ row, InSync codec later tradeNo status order topUp row ∧ row.id = sub.id ∧
      syncColumns row = syncColumns sub := by
  have columns := untouched.subscription
  rw [inSync.link.found, Option.map_some, Option.map_eq_some_iff] at columns
  obtain ⟨row, found, same⟩ := columns
  have id : row.id = sub.id := Table.find?_key found
  have fields := same
  simp only [syncColumns, Prod.mk.injEq] at fields
  obtain ⟨user, plan, source, status', -, -⟩ := fields
  have linked : LinkedTo codec later.books.store order row :=
    { named := by rw [id]; exact inSync.link.named
      found := by rw [id]; exact found
      user := user.trans inSync.link.user
      plan := plan.trans inSync.link.plan
      source := source.trans inSync.link.source }
  refine ⟨row, ⟨untouched.order.trans inSync.foundOrder, untouched.topUp.trans inSync.foundTopUp,
    linked, inSync.orderStatus, inSync.topUpStatus, inSync.cents, inSync.noQuota, ?_, ?_, ?_⟩,
    id, same⟩
  · rw [status', ← inSync.subStatus]
    simp only [afterSync, status']
    split_ifs
    · rfl
    · rfl
    · exact status'
  · intro positive commission member own
    exact inSync.commissions positive commission (untouched.commissions commission member own) own
  · intro refunded columns positive left reversible
    by_contra unpaid
    obtain ⟨still, kept⟩ := untouched.reward (Bool.not_eq_true _ ▸ unpaid)
    rw [kept] at left
    have paid := inSync.reward refunded columns positive left reversible
    rw [still] at paid
    exact Bool.false_ne_true paid

section

variable (redelivers : Redelivers later last again)

include redelivers

theorem processRefundSuccess_again
    (foundOrder : later.books.store.orders.find? last.tradeNo = some order) {next : World}
    (done : commit settings later
      (.sync (again.sync (later.books.store.topUps.find? last.tradeNo))) = .ok next) :
    processRefundSuccess settings later again = next := by
  obtain ⟨_, foundRefund, success⟩ := redelivers.succeeded
  have marked : markTopUpRefundSuccess later.books again.outRequestNo = .ok later.books := by
    simp only [markTopUpRefundSuccess, if_neg redelivers.numbered, foundRefund, success]
  have synced : syncOfficialSubscriptionRefundAfterSuccess settings later again = .ok next := by
    have named : Text.trimSpace again.tradeNo ≠ "" := by
      rw [redelivers.trimmed]
      exact redelivers.named
    rw [syncOfficialSubscriptionRefundAfterSuccess, redelivers.tradeNo, foundOrder,
      ← redelivers.tradeNo]
    simp only [if_neg named, if_neg (not_not.mpr redelivers.amount)]
    rw [redelivers.tradeNo]
    exact done
  simp only [processRefundSuccess, marked]
  rw [synced]

theorem redelivered_status :
    (again.sync (some (last.topUpAfter order topUp))).status (last.orderAfter order topUp)
        (last.topUpAfter order topUp) = refundStatus (refundedMoney topUp) (round 2 order.money)
        (decide (orderMoney topUp ≤ refundedMoney topUp)) := by
  have cents : round 2 (round 2 topUp.refundedMoney) =
      round 2 topUp.refundedMoney :=
    round_of_hasPlaces (round_hasPlaces 2 _)
  have full : (again.sync (some (last.topUpAfter order topUp))).fullRefund =
      decide (orderMoney topUp ≤ round 2 (round 2 topUp.refundedMoney)) := by
    simp only [RefundNotice.sync, redelivers.unflagged, Bool.false_or, Option.any_some]
    rfl
  rw [RefundSync.status, full]
  change refundStatus (round 2 (round 2 topUp.refundedMoney)) _ _ = _
  rw [cents]
  rfl

theorem redelivered_status_eq_iff :
    (again.sync (some (last.topUpAfter order topUp))).status (last.orderAfter order topUp)
        (last.topUpAfter order topUp) = last.status order topUp ↔ FlagAgrees last order topUp := by
  rw [redelivered_status redelivers]
  change refundStatus _ _ _ = refundStatus (refundedMoney topUp) _ last.fullRefund ↔ _
  rw [refundStatus_eq_iff, FlagAgrees]
  constructor
  · intro same positive part
    rw [← same positive part, decide_eq_true_iff]
  · intro same positive part
    rw [Bool.eq_iff_iff, decide_eq_true_iff, same positive part]

end

theorem canDowngrade_of_columns {status : PaymentStatus}
    (same : syncColumns row = syncColumns (sub.afterSync status)) (can : sub.canDowngrade) :
    row.canDowngrade := by
  rw [afterSync_eq] at same
  simp only [syncColumns, Prod.mk.injEq] at same
  obtain ⟨user, -, -, -, upgrade, downgrade⟩ := same
  rw [canDowngrade, user, upgrade, downgrade]
  exact can

theorem redelivery_commits (redelivers : Redelivers later last again)
    (admits : last.Admits order topUp)
    (can : last.status order topUp = .refunded ∨ last.status order topUp = .partialRefunded →
      row.canDowngrade)
    (current : InSync settings.refund.codec later last.tradeNo (last.status order topUp)
      (last.orderAfter order topUp) (last.topUpAfter order topUp) row) :
    ∃ next, commit settings later
      (.sync (again.sync (some (last.topUpAfter order topUp)))) = .ok next := by
  have tradeNo := redelivers.sync_tradeNo (some (last.topUpAfter order topUp))
  have again_admits : (again.sync (some (last.topUpAfter order topUp))).Admits
      (last.orderAfter order topUp) (last.topUpAfter order topUp) :=
    { provider := by
        have provider := admits.provider
        rw [redelivers.provider] at provider
        exact provider
      paid := by
        change refundStatus _ _ _ = _ ∨ refundStatus _ _ _ = _ ∨ refundStatus _ _ _ = _
        simp only [refundStatus]
        split_ifs <;> simp
      fits := by
        have cents : round 2 (last.topUpAfter order topUp).refundedMoney =
            round 2 topUp.refundedMoney :=
          round_of_hasPlaces (round_hasPlaces 2 _)
        rw [cents]
        exact admits.fits
      works := redelivers.works }
  obtain ⟨_, synced⟩ := @sync_commits settings.refund.codec _ later.books.store _ _
    (by rw [tradeNo]; exact current.foundOrder) (by rw [tradeNo]; exact current.foundTopUp)
    again_admits (by
      intro found findable refunds
      cases (current.link.refundable_after _ _).symm.trans findable
      rw [redelivered_status redelivers, refundStatus_refunds_iff] at refunds
      exact can (refundStatus_refunds_iff.mpr refunds))
  simp only [commit, synced]
  exact ⟨_, rfl⟩

/-- After the last sync of an order, with whatever flag, the success of any of its refunds
is reported again while nothing that the sync reads has changed: the report is without effect
exactly if the flag of the last sync agrees with the money. -/
theorem redelivered_refund_noop_iff
    (foundOrder : before.books.store.orders.find? last.tradeNo = some order)
    (foundTopUp : before.books.store.topUps.find? last.tradeNo = some topUp)
    (link : LinkedTo settings.refund.codec before.books.store order sub)
    (official : order.paymentProvider ≠ .balance ∧ topUp.paymentProvider ≠ .balance)
    (earned : ∀ row ∈ before.referrals.commissions.rows,
      row.isOf .subscription last.tradeNo → 0 ≤ row.commissionQuota)
    (synced : commit settings before (.sync last) = .ok after)
    (untouched : Untouched after later last.tradeNo sub.id order.userId)
    (redelivers : Redelivers later last again) :
    (processRefundSuccess settings later again).refundView last.tradeNo sub.id =
        later.refundView last.tradeNo sub.id ↔ FlagAgrees last order topUp := by
  obtain ⟨can, admits, -⟩ := sync_world foundOrder foundTopUp link synced
  have inSync := inSync_of_sync foundOrder foundTopUp link official earned synced
  rw [← afterSync_id sub (last.status order topUp)] at untouched
  obtain ⟨row, current, id, columns⟩ := inSync.of_untouched untouched
  rw [afterSync_id] at id
  obtain ⟨next, done⟩ := @redelivery_commits settings later last again order topUp row redelivers
    admits (fun refunds => canDowngrade_of_columns columns (can refunds)) current
  rw [@processRefundSuccess_again settings later last again _ redelivers current.foundOrder next
    (by rw [current.foundTopUp]; exact done), ← redelivered_status_eq_iff redelivers]
  have tradeNo := redelivers.sync_tradeNo (some (last.topUpAfter order topUp))
  rw [← tradeNo] at current ⊢
  constructor
  · intro unchanged
    by_contra other
    exact current.moved done other sub.id unchanged
  · intro same
    rw [← id]
    exact current.again official done same

end Redelivery

def soldWorld : World where
  books := { store :=
    { users := .single { id := 2 }
      orders := .single { tradeNo := "T1", userId := 2, planId := 1, money := 10
                          paymentProvider := .wechatPayOfficial, status := .success
                          providerPayload := "subscription_id=1" }
      topUps := .single { tradeNo := "T1", userId := 2, money := 10
                          paymentProvider := .wechatPayOfficial, status := .success }
      subs := ⟨⟨[{ id := 1, userId := 2, planId := 1, startTime := 0, endTime := 100 }],
        by decide⟩, 2, by decide, by decide⟩ } }
  referrals := invitedPair

def declaredRefund (amount : ℚ) : ServerSettings × WorldOp :=
  (plainServer, .refund (.official
    { tradeNo := "T1", refundAmount := amount, outRequestNo := "R1", allowFullRefund := true }))

def reportedRefund (amount : ℚ) (allowFullRefund : Bool) : RefundNotice :=
  { outRequestNo := "R1", tradeNo := "T1", paymentProvider := .wechatPayOfficial
    refundAmount := amount, allowFullRefund := allowFullRefund, now := 7 }

/-- Half of the money is refunded and declared to be all of it; the notification of the
provider makes the refunded order a partly refunded one. -/
theorem declared_refund_reopened :
    let settled := processRefundSuccess plainServer
      (worldStep soldWorld (declaredRefund 5)) (reportedRefund 5 true)
    (settled.refundView "T1" 1).order = some .refunded ∧
      ((processRefundSuccess plainServer settled (reportedRefund 5 false)).refundView
        "T1" 1).order = some .partialRefunded := by
  decide +kernel

/-- The world in which the refund of all the money is known to have succeeded. -/
def refundedWorld : World :=
  run worldStep soldWorld [declaredRefund 10, (plainServer, .refund (.markSuccess "R1"))]

/-- The sync that follows. -/
def refundedSync : RefundSync :=
  (reportedRefund 10 true).sync (refundedWorld.books.store.topUps.find? "T1")

/-- The notification of the refund of all the money is without effect. -/
theorem full_refund_redelivered :
    let settled := worldStep refundedWorld (plainServer, .sync refundedSync)
    (processRefundSuccess plainServer settled (reportedRefund 10 false)).refundView "T1" 1 =
        settled.refundView "T1" 1 := by
  intro settled
  have synced : commit plainServer refundedWorld (.sync refundedSync) = .ok settled := by
    have commits : (commit plainServer refundedWorld (.sync refundedSync)).isOk := by
      decide +kernel
    simp only [settled, worldStep]
    cases done : commit plainServer refundedWorld (.sync refundedSync) with
    | error =>
      rw [done] at commits
      cases commits
    | ok => rfl
  have redelivers : Redelivers settled refundedSync (reportedRefund 10 false) :=
    { tradeNo := by decide +kernel
      trimmed := by decide +kernel
      named := by decide
      numbered := by decide +kernel
      succeeded := ⟨refundRow { tradeNo := "T1", userId := 2 } "R1" 10 0 .success,
        by decide +kernel, rfl⟩
      provider := rfl
      amount := by decide +kernel
      unflagged := rfl
      works := rfl }
  refine (@redelivered_refund_noop_iff plainServer refundedWorld settled settled refundedSync
    (reportedRefund 10 false)
    { tradeNo := "T1", userId := 2, planId := 1, money := 10
      paymentProvider := .wechatPayOfficial, status := .success
      providerPayload := "subscription_id=1" }
    { tradeNo := "T1", userId := 2, money := 10, refundedMoney := 10
      paymentProvider := .wechatPayOfficial, status := .refunded }
    { id := 1, userId := 2, planId := 1, startTime := 0, endTime := 100 }
    (by decide +kernel) (by decide +kernel)
    ⟨by decide +kernel, by decide +kernel, rfl, rfl, rfl⟩ (by decide) (by decide +kernel) synced
    ⟨rfl, rfl, rfl, fun _ member _ => member, fun unpaid => ⟨unpaid, rfl⟩⟩ redelivers).mpr ?_
  intro _ part
  exact absurd part (by decide +kernel)

end StuHelper.TopUps
