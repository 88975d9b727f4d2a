import StuHelper.Referral.Rewards
import StuHelper.TopUps.Refund

/-!
# Payments, refunds and referrals together

Completing and refunding a top-up also writes the referral side of the database, in the
same transaction.  A `World` is both sides, and its operations are everything that can
happen to a top-up row after it was created: completions by the provider or by an
administrator, expirations, the review of a self-serve order, and refunds with the
answers of the provider.  Every operation holds the lock of the row, so that concurrent
calls are some interleaving of whole operations.

The options of the server are part of each call: they may change at any time.
-/

namespace StuHelper.TopUps

open Lib Subscription Referral

/-- The database. -/
structure World where
  books : Books
  referrals : Referrals

/-- The options that a call reads. -/
structure ServerSettings where
  credit : CreditSettings
  refund : RefundSettings
  referral : ReferralSettings
  payments : PaymentSettings

/-! ## Completion -/

def Path.commissionMethod (topUp : TopUp) : Path → String
  | .epay actual => if actual ≠ "" then actual else topUp.paymentMethod
  | .stripe => "stripe"
  | .creem _ => "creem"
  | .waffo => "waffo"
  | .waffoPancake => "waffo_pancake"
  | .official _ actual _ => if actual ≠ "" then actual else topUp.paymentMethod
  | .manual => "manual"

def paymentOf (topUp : TopUp) (paymentMethod : String) : Payment :=
  { userId := topUp.userId, rechargeAmount := topUp.money, paymentMethod := paymentMethod
    sourceType := .topUp, sourceId := topUp.tradeNo }

/-- A completion with its referral side. -/
def World.complete (settings : ServerSettings) (world : World) (path : Path)
    (call : Completion) : Except TopUpError World :=
  match path.complete settings.credit world.books.store call with
  | .error error => .error error
  | .ok completed =>
    let books := { world.books with store := completed.store }
    match completed.credited, world.books.store.topUps.find? call.tradeNo with
    | some _, some topUp => .ok
        { books := books
          referrals := (creditInviteRewardsAfterPayment settings.referral world.referrals
            (paymentOf topUp (path.commissionMethod topUp))).2 }
    | _, _ => .ok { world with books := books }

/-! ## Expiration -/

/-- `UpdatePendingTopUpStatus`.  An unset provider expects nothing. -/
def updatePendingTopUpStatus (store : Store) (tradeNo : String)
    (expectedPaymentProvider : PaymentProvider) (targetStatus : PaymentStatus) :
    Except TopUpError Store :=
  if tradeNo = "" then .error .tradeNoMissing
  else
    match store.topUps.find? tradeNo with
    | none => .error .topUpNotFound
    | some topUp =>
      if expectedPaymentProvider ≠ .unset ∧ topUp.paymentProvider ≠ expectedPaymentProvider then
        .error .paymentMethodMismatch
      else if topUp.status ≠ .pending then .error .statusInvalid
      else .ok { store with topUps := store.topUps.save { topUp with status := targetStatus } }

/-- A call of `ExpireOfficialPaymentPendingTopUpsBefore`. -/
structure OfficialExpiry where
  paymentProvider : PaymentProvider
  createBefore : Int
  completeTime : Int
  userId : Int
  now : Int

namespace OfficialExpiry

/-- The completion time that is written. -/
def stamp (call : OfficialExpiry) : Int :=
  if call.completeTime ≤ 0 then call.now else call.completeTime

/-- The condition of both updates. -/
def selects (call : OfficialExpiry) (provider : PaymentProvider) (status : PaymentStatus)
    (createTime userId : Int) : Bool :=
  provider = call.paymentProvider && status = .pending && createTime ≤ call.createBefore &&
    (call.userId ≤ 0 || userId = call.userId)

/-- A pending top-up of the provider that is too old. -/
def expireTopUp (call : OfficialExpiry) (topUp : TopUp) : TopUp :=
  if call.selects topUp.paymentProvider topUp.status topUp.createTime topUp.userId then
    { topUp with status := .expired, completeTime := call.stamp }
  else topUp

/-- A pending subscription order of the provider that is too old. -/
def expireOrder (call : OfficialExpiry) (order : SubscriptionOrder) : SubscriptionOrder :=
  if call.selects order.paymentProvider order.status order.createTime order.userId then
    { order with status := .expired, completeTime := call.stamp }
  else order

end OfficialExpiry

def expireOfficialPaymentPendingTopUpsBefore (store : Store) (call : OfficialExpiry) :
    Except TopUpError Store :=
  if !call.paymentProvider.isOfficial then .error .paymentMethodMismatch
  else if call.createBefore ≤ 0 then .ok store
  else .ok
    { store with
      orders := store.orders.update call.expireOrder
        (by intro order; rw [OfficialExpiry.expireOrder]; split <;> rfl)
      topUps := store.topUps.update call.expireTopUp
        (by intro topUp; rw [OfficialExpiry.expireTopUp]; split <;> rfl) }

/-! ## Review of self-serve orders -/

def World.approveSelfServeTopUp (settings : ServerSettings) (world : World)
    (tradeNo : String) : Except TopUpError World :=
  let store := world.books.store
  let tradeNo := Text.trimSpace tradeNo
  if tradeNo = "" then .error .tradeNoMissing
  else
    match store.topUps.find? tradeNo with
    | none => .error .topUpNotFound
    | some topUp =>
      if !isSelfServeTopUpRecord topUp then .error .paymentMethodMismatch
      else
        match store.audits.rows.find? fun audit => audit.tradeNo = topUp.tradeNo with
        | none => .error .recordNotFound
        | some audit =>
          match audit.status with
          | .approved => .ok world
          | .rejected => .error .statusInvalid
          | .pending =>
            let sourceType := if (store.orders.find? topUp.tradeNo).isSome then
              CommissionSource.subscription else .topUp
            .ok
              { books := { world.books with store := { store with
                  audits := store.audits.save { audit with status := .approved } } }
                referrals := (creditInviteRewardsAfterPayment settings.referral
                  world.referrals
                  { paymentOf topUp topUp.paymentMethod with
                    sourceType := sourceType }).2 }

/-! ## Refunds -/

/-- The referral side of a refund of a wallet top-up. -/
def World.referRefund (world : World) (next : Books) (tradeNo : String) (refundAmount : ℚ) :
    Referrals :=
  match next.store.topUps.find? tradeNo with
  | none => world.referrals
  | some topUp =>
    let reversed := reverseReferralCommissionForRefund world.referrals .topUp tradeNo
      refundAmount (orderMoney topUp)
    if topUp.status = .refunded then
      (reverseInviterRewardForFullRefund next.store reversed topUp.userId).2
    else reversed

/-- The referral side of a sync, from the rows that it has written. -/
def referSync (referrals : Referrals) (next : Store) (tradeNo : String) : Referrals :=
  match next.orders.find? tradeNo, next.topUps.find? tradeNo with
  | some order, some topUp =>
    let targeted := setReferralCommissionRefundTarget referrals .subscription tradeNo
      topUp.refundedMoney (Decimal.round 2 order.money)
    if order.status = .refunded then
      (reverseInviterRewardForFullRefund next targeted order.userId).2
    else targeted
  | _, _ => referrals

def World.referFailure (world : World) (next : Books) (outRequestNo : String) : Referrals :=
  match world.books.refunds.find? outRequestNo with
  | none => world.referrals
  | some refund =>
    if refund.status = .failed then world.referrals
    else
      match world.books.store.topUps.find? refund.tradeNo with
      | none => world.referrals
      | some topUp =>
        let reversed := if (world.books.store.orders.find? topUp.tradeNo).isSome then
            world.referrals
          else reverseReferralCommissionForRefund world.referrals .topUp topUp.tradeNo
            (-refund.refundAmount) (orderMoney topUp)
        if topUp.status = .refunded then
          (restoreInviterRewardForRefundFailure next.store reversed topUp.userId).2
        else reversed

/-- The order of a trade number buys a subscription. -/
def World.isSubscription (world : World) (tradeNo : String) : Bool :=
  (world.books.store.orders.find? tradeNo).isSome

/-- The first audit of a trade number is pending. -/
def auditPending (store : Store) (tradeNo : String) : Bool :=
  (store.audits.rows.find? fun audit => audit.tradeNo = tradeNo).any fun audit =>
    audit.status = .pending

/-- The referral side of a refund operation. -/
def World.refer (world : World) (next : Books) : RefundOp → Referrals
  | .official params =>
    if world.isSubscription params.tradeNo then world.referrals
    else world.referRefund next params.tradeNo (Decimal.round 2 params.refundAmount)
  | .markSuccess _ => world.referrals
  | .markFailed outRequestNo _ => world.referFailure next outRequestNo
  | .selfServe call =>
    let tradeNo := Text.trimSpace call.tradeNo
    if world.isSubscription tradeNo then referSync world.referrals next.store tradeNo
    else world.referRefund next tradeNo (Decimal.round 2 call.refundAmount)
  | .reject call =>
    let tradeNo := Text.trimSpace call.tradeNo
    if world.isSubscription tradeNo ∧ auditPending world.books.store tradeNo then
      referSync world.referrals next.store tradeNo
    else world.referrals
  | .admin _ => world.referrals

/-! ## Refunds of subscriptions that were paid from the wallet -/

/-- The quota of a `charged_quota=quota` part, or the error that it is no quota. -/
def chargedQuotaPart (part : List Char) : Option (Except TopUpError Int) :=
  match Text.cut '=' (Text.trim part) with
  | none => none
  | some (key, value) =>
    if Text.trim key ≠ "charged_quota".toList then none
    else
      match Text.atoi (Text.trim value) with
      | none => some (.error .chargedQuotaInvalid)
      | some quota =>
        if quota < 0 then some (.error .chargedQuotaInvalid) else some (.ok quota)

def balanceSubscriptionChargedQuota (settings : PaymentSettings) (order : SubscriptionOrder) :
    Except TopUpError Int :=
  match (Text.fieldsFunc payloadSeparator order.providerPayload.toList).findSome?
      chargedQuotaPart with
  | some result => result
  | none =>
    match calcSubscriptionBalanceQuota settings order.money with
    | .error error => .error (.subscription error)
    | .ok quota => .ok quota

/-- A call of `CreateBalanceSubscriptionRefund`, with the number that it generates. -/
structure BalanceRefund where
  tradeNo : String
  refundAmount : ℚ
  allowFullRefund : Bool := false
  outRequestNo : String
  now : Int
  bookkeepingFails : Bool := false

/-- The writes of a refund to the wallet. -/
def BalanceRefund.book (settings : ServerSettings) (books : Books) (call : BalanceRefund)
    (topUp : TopUp) (refundAmount : ℚ) (refundQuota : Int) : Except TopUpError Books :=
  if refundQuota ≤ 0 then .error .invalidRefundQuota
  else
    match books.createRefund
        (refundRow topUp call.outRequestNo refundAmount refundQuota .success) with
    | .error error => .error error
    | .ok created =>
      let newRefundedMoney := Decimal.round 2 (refundedMoney topUp + refundAmount)
      let fullRefund := call.allowFullRefund || !decide (newRefundedMoney < orderMoney topUp)
      let booked := (created.addQuota topUp.userId refundQuota).saveTopUp
        { topUp with
          refundedMoney := newRefundedMoney
          refundedQuota := topUp.refundedQuota + refundQuota
          status := if fullRefund then .refunded else .partialRefunded }
      match syncSubscriptionOrderRefundState settings.refund.codec booked.store
          { tradeNo := topUp.tradeNo, expectedPaymentProvider := some .balance
            fullRefund := fullRefund, now := call.now
            bookkeepingFails := call.bookkeepingFails } with
      | .error error => .error (.subscription error)
      | .ok store => .ok { booked with store := store }

def createBalanceSubscriptionRefund (settings : ServerSettings) (books : Books)
    (call : BalanceRefund) : Except TopUpError Books :=
  let tradeNo := Text.trimSpace call.tradeNo
  let refundAmount := Decimal.round 2 call.refundAmount
  if tradeNo = "" then .error .tradeNoMissing
  else if ¬ 0 < refundAmount then .error .refundAmountNotPositive
  else
    match books.store.topUps.find? tradeNo with
    | none => .error .topUpNotFound
    | some topUp =>
      if topUp.paymentProvider ≠ .balance ∧ topUp.paymentMethod ≠ "balance" then
        .error .paymentMethodMismatch
      else if !refundOpen topUp then .error .statusInvalid
      else
        match books.store.orders.find? topUp.tradeNo with
        | none => .error (.subscription .orderNotFound)
        | some order =>
          if order.paymentProvider ≠ .balance ∧ order.paymentMethod ≠ "balance" then
            .error .paymentMethodMismatch
          else
            match withinPreview settings.refund books.store topUp call.allowFullRefund
                refundAmount with
            | .error error => .error error
            | .ok () =>
              if refundAmount > orderMoney topUp - refundedMoney topUp then
                .error .exceedsRefundable
              else
                match balanceSubscriptionChargedQuota settings.payments order with
                | .error error => .error error
                | .ok chargedQuota => call.book settings books topUp refundAmount
                    (calculateOfficialRefundQuota chargedQuota topUp.refundedQuota
                      (orderMoney topUp) refundAmount
                      (orderMoney topUp - refundedMoney topUp))

/-! ## Runs -/

/-- Everything that happens to top-ups. -/
inductive WorldOp where
  | complete (path : Path) (call : Completion)
  | updatePending (tradeNo : String) (expectedPaymentProvider : PaymentProvider)
      (targetStatus : PaymentStatus)
  | expireOfficial (call : OfficialExpiry)
  | approve (tradeNo : String)
  | refund (op : RefundOp)
  | refundBalance (call : BalanceRefund)
  | sync (call : RefundSync)

def World.withStore (world : World) (store : Store) : World :=
  { world with books := { world.books with store := store } }

/-- The world an operation commits, if it does. -/
def WorldOp.commit (settings : ServerSettings) (world : World) :
    WorldOp → Except TopUpError World
  | .complete path call => world.complete settings path call
  | .updatePending tradeNo expectedPaymentProvider targetStatus =>
    (updatePendingTopUpStatus world.books.store tradeNo expectedPaymentProvider
      targetStatus).map world.withStore
  | .expireOfficial call =>
    (expireOfficialPaymentPendingTopUpsBefore world.books.store call).map world.withStore
  | .approve tradeNo => world.approveSelfServeTopUp settings tradeNo
  | .refund op => (op.commit settings.refund world.books).map fun next =>
    { books := next, referrals := world.refer next op }
  | .refundBalance call =>
    (createBalanceSubscriptionRefund settings world.books call).map fun next =>
      { books := next
        referrals := referSync world.referrals next.store (Text.trimSpace call.tradeNo) }
  | .sync call =>
    match syncSubscriptionOrderRefundState settings.refund.codec world.books.store call with
    | .error error => .error (.subscription error)
    | .ok store => .ok
        { world.withStore store with
          referrals := referSync world.referrals store call.tradeNo }

/-- One operation under the options of the moment; a failing transaction is rolled back. -/
def worldStep (world : World) (label : ServerSettings × WorldOp) : World :=
  match label.2.commit label.1 world with
  | .ok next => next
  | .error _ => world

end StuHelper.TopUps
