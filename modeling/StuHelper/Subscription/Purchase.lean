import StuHelper.Lib.Decimal
import StuHelper.Subscription.Payload
import StuHelper.Subscription.Rows

/-!
# Orders and the creation of subscriptions

A subscription is created by completing a paid order, by paying with the wallet, by a
self-serve payment that is reviewed later, or by an administrator.  All of them go
through one function that counts the existing subscriptions, queues the new one behind
the running one of the same plan and moves the user into the group of the plan.

Every operation takes the clock, and one that draws a random trade number takes the
number that was drawn.
-/

namespace StuHelper.Subscription

open Lib

/-! ## Users -/

namespace Store

/-- `lockSubscriptionPurchaseUserTx`. -/
def lockSubscriptionPurchaseUser (store : Store) (userId : Int) : Except SubscriptionError Unit :=
  if userId ≤ 0 then .error .invalidUserId
  else if (store.users.find? userId).isSome then .ok ()
  else .error .recordNotFound

/-- `getUserGroupByIdTx`; a missing user has the empty group. -/
def getUserGroupById (store : Store) (userId : Int) : String :=
  ((store.users.find? userId).map User.group).getD ""

def setUserGroup (store : Store) (userId : Int) (group : String) : Store :=
  { store with
    users := store.users.update
      (fun user => if user.id = userId then { user with group := group } else user)
      (by intro user; split <;> rfl) }

/-- Number of subscriptions of a user and plan, whatever their status. -/
def subscriptionCount (store : Store) (userId planId : Int) : Nat :=
  store.subs.rows.countP fun sub => sub.userId = userId && sub.planId = planId

def pendingOrderCount (store : Store) (userId planId : Int) : Nat :=
  store.orders.rows.countP fun order =>
    order.userId = userId && order.planId = planId && order.status = .pending

end Store

/-! ## Creating a subscription -/

/-- `nextSubscriptionStartTimeTx`: the end of the last active row of the same plan, or
now. -/
def Store.nextSubscriptionStartTime (store : Store) (userId planId now : Int) :
    Int × Option UserSubscription :=
  match selectFirst (Descending UserSubscription.endTime UserSubscription.id)
      (fun sub => sub.userId = userId && sub.planId = planId &&
        sub.status = .active && sub.endTime > now) store.subs.rows with
  | some latest => (latest.endTime, some latest)
  | none => (now, none)

/-- The group that a new subscription gives back at its end. -/
def prevGroupFor (previous : Option UserSubscription)
    (currentGroup upgradeGroup : String) : String :=
  let chained := (previous.map fun sub => Text.trimSpace sub.prevUserGroup).getD ""
  if currentGroup ≠ upgradeGroup ∧ chained = "" then currentGroup else chained

def newSubscription (loc : Location) (store : Store) (userId : Int)
    (plan : SubscriptionPlan) (source : Source) (now endTime : Int) (id : Int) : UserSubscription :=
  let (startTime, previous) := store.nextSubscriptionStartTime userId plan.id now
  let nextReset := calcNextResetTime loc startTime plan endTime
  let upgradeGroup := Text.trimSpace plan.upgradeGroup
  { id := id
    userId := userId
    planId := plan.id
    amountTotal := plan.totalAmount
    amountUsed := 0
    startTime := startTime
    endTime := endTime
    status := .active
    source := source
    lastResetTime := if nextReset > 0 then startTime else 0
    nextResetTime := nextReset
    upgradeGroup := upgradeGroup
    prevUserGroup :=
      if upgradeGroup ≠ "" then
        prevGroupFor previous (store.getUserGroupById userId) upgradeGroup
      else ""
    downgradeGroup := Text.trimSpace plan.downgradeGroup
    allowWalletOverflow := some (plan.allowWalletOverflow.getD true)
    createdAt := now }

@[simp] theorem newSubscription_id (loc : Location) (store : Store) (userId : Int)
    (plan : SubscriptionPlan) (source : Source) (now endTime id : Int) :
    (newSubscription loc store userId plan source now endTime id).id = id := rfl

/-- The users after a subscription that starts at `startTime` was created. -/
def Store.upgradedUsers (store : Store) (userId : Int) (plan : SubscriptionPlan)
    (startTime now : Int) : Table User.id :=
  let upgradeGroup := Text.trimSpace plan.upgradeGroup
  if upgradeGroup ≠ "" ∧ store.getUserGroupById userId ≠ upgradeGroup ∧ startTime ≤ now then
    (store.setUserGroup userId upgradeGroup).users
  else store.users

/-- `createUserSubscriptionFromPlanTxLocked`: the id of the new row and the store. -/
def createUserSubscriptionFromPlanLocked (loc : Location) (store : Store)
    (userId : Int) (plan : SubscriptionPlan) (source : Source) (now : Int) :
    Except SubscriptionError (Int × Store) :=
  if plan.id = 0 then .error .invalidPlan
  else if userId ≤ 0 then .error .invalidUserId
  else if plan.maxPurchasePerUser > 0 ∧
      (store.subscriptionCount userId plan.id : Int) ≥ plan.maxPurchasePerUser then
    .error .purchaseLimit
  else if plan.id ≤ 0 then .error .invalidSubscriptionStart
  else
    let startTime := (store.nextSubscriptionStartTime userId plan.id now).1
    match calcPlanEndTime loc startTime plan with
    | .error error => .error (.duration error)
    | .ok endTime =>
      .ok (store.subs.next,
        { store with
          users := store.upgradedUsers userId plan startTime now
          subs := store.subs.create
            (newSubscription loc store userId plan source now endTime)
            (newSubscription_id loc store userId plan source now endTime) })

/-- `CreateUserSubscriptionFromPlanTx`. -/
def createUserSubscriptionFromPlan (loc : Location) (store : Store) (userId : Int)
    (plan : SubscriptionPlan) (source : Source) (now : Int) :
    Except SubscriptionError (Int × Store) :=
  if plan.id = 0 then .error .invalidPlan
  else if userId ≤ 0 then .error .invalidUserId
  else
    match store.lockSubscriptionPurchaseUser userId with
    | .error error => .error error
    | .ok () => createUserSubscriptionFromPlanLocked loc store userId plan source now

/-! ## Orders -/

/-- The completion time that `upsertSubscriptionTopUpTx` mirrors. -/
def SubscriptionOrder.mirroredCompleteTime (order : SubscriptionOrder) (now : Int) : Int :=
  match order.status with
  | .success | .expired | .failed =>
    if order.completeTime = 0 then now else order.completeTime
  | _ => 0

/-- `upsertSubscriptionTopUpTx`: the top-up row that mirrors an order. -/
def upsertSubscriptionTopUp (store : Store) (order : SubscriptionOrder) (now : Int) :
    Except SubscriptionError Store :=
  let completeTime := order.mirroredCompleteTime now
  match store.topUps.find? order.tradeNo with
  | none =>
    match store.topUps.insert?
        { tradeNo := order.tradeNo
          userId := order.userId
          money := order.money
          fee := order.fee
          paymentMethod := order.paymentMethod
          paymentProvider := order.paymentProvider
          createTime := order.createTime
          completeTime := completeTime
          status := order.status } with
    | none => .error .duplicateKey
    | some topUps => .ok { store with topUps := topUps }
  | some topUp =>
    let takesMethod := topUp.paymentMethod = "" ||
      (order.paymentProvider = .epay && order.paymentMethod ≠ "")
    if !takesMethod && topUp.paymentMethod ≠ order.paymentMethod then
      .error .paymentMethodMismatch
    else if topUp.paymentProvider ≠ .unset && order.paymentProvider ≠ .unset &&
        topUp.paymentProvider ≠ order.paymentProvider then
      .error .paymentMethodMismatch
    else .ok { store with topUps := store.topUps.save { topUp with
      money := order.money
      fee := order.fee
      paymentMethod :=
        if takesMethod then order.paymentMethod else topUp.paymentMethod
      createTime :=
        if topUp.createTime = 0 then order.createTime else topUp.createTime
      paymentProvider :=
        if topUp.paymentProvider = .unset then order.paymentProvider
        else topUp.paymentProvider
      completeTime := completeTime
      status := order.status } }

/-- `reserveSubscriptionPurchaseSlotTx`. -/
def reserveSubscriptionPurchaseSlot (store : Store) (order : SubscriptionOrder) :
    Except SubscriptionError Unit :=
  if order.userId ≤ 0 ∨ order.planId ≤ 0 then .error .invalidOrder
  else if order.status ≠ .pending ∧ order.status ≠ .success then .ok ()
  else
    match store.lockSubscriptionPurchaseUser order.userId with
    | .error error => .error error
    | .ok () =>
      match store.getSubscriptionPlanById order.planId with
      | .error error => .error error
      | .ok plan =>
        if plan.maxPurchasePerUser > 0 ∧
            (store.subscriptionCount order.userId order.planId +
              store.pendingOrderCount order.userId order.planId : Int) ≥
                plan.maxPurchasePerUser then
          .error .purchaseLimit
        else .ok ()

/-- Create an order row and the top-up row that mirrors it. -/
def createOrder (store : Store) (order : SubscriptionOrder) (now : Int) :
    Except SubscriptionError Store :=
  match store.orders.insert? order with
  | none => .error .duplicateKey
  | some orders => upsertSubscriptionTopUp { store with orders := orders } order now

def SubscriptionOrder.stamp (order : SubscriptionOrder) (now : Int) : SubscriptionOrder :=
  { order with createTime := if order.createTime = 0 then now else order.createTime }

/-- `SubscriptionOrder.Insert`. -/
def insertSubscriptionOrder (store : Store) (order : SubscriptionOrder) (now : Int) :
    Except SubscriptionError Store :=
  match reserveSubscriptionPurchaseSlot store (order.stamp now) with
  | .error error => .error error
  | .ok () => createOrder store (order.stamp now) now

/-- A provider check that the empty text skips. -/
def providerMismatch (expected : Option PaymentProvider) (actual : PaymentProvider) : Bool :=
  match expected with
  | none => false
  | some provider => actual ≠ provider

/-- The order can still be completed: pending, or expired at an official provider whose
payment arrives late. -/
def SubscriptionOrder.completable (order : SubscriptionOrder) : Bool :=
  order.status = .pending ||
    (order.status = .expired && order.paymentProvider.isOfficial)

/-- What a payment notification brings along. -/
structure Completion where
  tradeNo : String
  providerPayload : String := ""
  expectedPaymentProvider : Option PaymentProvider := none
  actualPaymentMethod : String := ""
  now : Int
  /-- The referral bookkeeping at the end of the transaction fails. -/
  referralFails : Bool := false

/-- The order after its completion, paid for by the given subscription. -/
def SubscriptionOrder.complete (codec : PayloadCodec) (order : SubscriptionOrder)
    (completion : Completion) (subscriptionId : Int) : SubscriptionOrder :=
  let payload := providerPayloadWithSubscriptionId codec
    (if completion.providerPayload = "" then order.providerPayload
      else completion.providerPayload) subscriptionId
  { order with
    paymentMethod :=
      if completion.actualPaymentMethod ≠ "" then completion.actualPaymentMethod
      else order.paymentMethod
    status := .success
    completeTime := completion.now
    providerPayload := if payload ≠ "" then payload else order.providerPayload }

def completeOrder (loc : Location) (codec : PayloadCodec) (store : Store)
    (order : SubscriptionOrder) (completion : Completion) : Except SubscriptionError Store :=
  match store.getSubscriptionPlanById order.planId with
  | .error error => .error error
  | .ok plan =>
    match createUserSubscriptionFromPlan loc store order.userId plan .order
        completion.now with
    | .error error => .error error
    | .ok (subscriptionId, store) =>
      let order := order.complete codec completion subscriptionId
      match upsertSubscriptionTopUp store order completion.now with
      | .error error => .error error
      | .ok store =>
        if completion.referralFails then .error .storeFailure
        else .ok { store with orders := store.orders.save order }

def completeSubscriptionOrder (loc : Location) (codec : PayloadCodec) (store : Store)
    (completion : Completion) : Except SubscriptionError Store :=
  if completion.tradeNo = "" then .error .tradeNoEmpty
  else
    match store.orders.find? completion.tradeNo with
    | none => .error .orderNotFound
    | some order =>
      if providerMismatch completion.expectedPaymentProvider
          order.paymentProvider then .error .paymentMethodMismatch
      else if order.status = .success then .ok store
      else if !order.completable then .error .orderStatusInvalid
      else completeOrder loc codec store order completion

def expireSubscriptionOrder (store : Store) (tradeNo : String)
    (expectedPaymentProvider : Option PaymentProvider) (now : Int) :
    Except SubscriptionError Store :=
  if tradeNo = "" then .error .tradeNoEmpty
  else
    match store.orders.find? tradeNo with
    | none => .error .orderNotFound
    | some order =>
      if providerMismatch expectedPaymentProvider order.paymentProvider then
        .error .paymentMethodMismatch
      else if order.status ≠ .pending then .ok store
      else
        let order := { order with status := .expired, completeTime := now }
        upsertSubscriptionTopUp
          { store with orders := store.orders.save order } order now

def adminBindSubscription (loc : Location) (store : Store) (userId planId now : Int) :
    Except SubscriptionError Store :=
  if userId ≤ 0 ∨ planId ≤ 0 then .error .invalidUserOrPlanId
  else
    match store.getSubscriptionPlanById planId with
    | .error error => .error error
    | .ok plan => (createUserSubscriptionFromPlan loc store userId plan .admin now).map Prod.snd

/-! ## Payment with the wallet -/

/-- The settings that the purchases read. -/
structure PaymentSettings where
  quotaPerUnit : ℚ
  selfServeTopUpUnitPrice : ℚ
  selfServeTopUpSingleMaxAmount : ℚ
  selfServeTopUpDailyMaxAmount : ℚ
  selfServeWechatPayAutoTransactionNo : Bool

def calcSubscriptionBalanceQuota (settings : PaymentSettings) (priceAmount : ℚ) :
    Except SubscriptionError Int :=
  if priceAmount ≤ 0 then .ok 0
  else if settings.quotaPerUnit ≤ 0 then .error .quotaUnitInvalid
  else .ok ⌈priceAmount * settings.quotaPerUnit⌉

/-- Take the price out of the wallet, which must hold it. -/
def chargeWallet (store : Store) (userId requiredQuota : Int) : Except SubscriptionError Store :=
  match store.users.find? userId with
  | none => .error .recordNotFound
  | some user =>
    if requiredQuota > 0 then
      if user.quota < requiredQuota then .error .balanceInsufficient
      else .ok { store with
        users := store.users.save { user with quota := user.quota - requiredQuota } }
    else .ok store

/-- Create the subscription of a payment that is already made, and its order. -/
def createPaid (loc : Location) (codec : PayloadCodec) (store : Store)
    (plan : SubscriptionPlan) (order : SubscriptionOrder) (now : Int) :
    Except SubscriptionError Store :=
  match createUserSubscriptionFromPlanLocked loc store order.userId plan .order now with
  | .error error => .error error
  | .ok (subscriptionId, store) =>
    createOrder store
      { order with
        status := .success
        createTime := now
        completeTime := now
        providerPayload :=
          providerPayloadWithSubscriptionId codec order.providerPayload
            subscriptionId } now

def purchaseSubscriptionWithBalance (loc : Location) (codec : PayloadCodec)
    (settings : PaymentSettings) (store : Store) (userId planId : Int)
    (tradeNo : String) (now : Int) : Except SubscriptionError Store :=
  if userId ≤ 0 ∨ planId ≤ 0 then .error .invalidUserOrPlanId
  else
    match store.getSubscriptionPlanById planId with
    | .error error => .error error
    | .ok plan =>
      if !plan.enabled then .error .planDisabled
      else if plan.priceAmount < 0 then .error .priceNegative
      else if plan.allowBalancePay = some false then .error .balancePayNotAllowed
      else
        match calcSubscriptionBalanceQuota settings plan.priceAmount with
        | .error error => .error error
        | .ok requiredQuota =>
          match chargeWallet store userId requiredQuota with
          | .error error => .error error
          | .ok store =>
            createPaid loc codec store plan
              { tradeNo := tradeNo
                userId := userId
                planId := plan.id
                money := plan.priceAmount
                paymentMethod := "balance"
                paymentProvider := .balance
                providerPayload := "charged_quota=" ++ String.ofList (Text.itoa requiredQuota) } now

/-! ## Self-serve payment -/

/-- `SelfServeSubscriptionPurchaseParams`, with the numbers that are drawn. -/
structure SelfServePurchase where
  userId : Int
  planId : Int
  paymentMethod : String
  declaredMoney : ℚ
  transactionNo : String
  tradeNo : String
  generatedTransactionNo : String
  now : Int

/-- `PaymentMethodAlipaySelfServe` and `PaymentMethodWechatSelfServe`. -/
def alipaySelfServe : String := "alipay_self_serve"

@[inherit_doc alipaySelfServe]
def wechatSelfServe : String := "wxpay_self_serve"

/-- `NormalizeSelfServePaymentMethod`; `none` stands for the empty text. -/
def normalizeSelfServePaymentMethod (paymentMethod : String) : Option String :=
  let method := Text.trimSpace paymentMethod
  if method = alipaySelfServe ∨ method = wechatSelfServe then some method else none

/-- `selfServeDailyUsedMoneyTx`: what the user has declared today. -/
def selfServeDailyUsedMoney (loc : Location) (store : Store) (userId now : Int) : ℚ :=
  let today := loc.date (loc.dayOf now) 0
  Decimal.round 2 (((store.audits.rows.filter fun audit =>
    audit.userId = userId && audit.createTime ≥ today &&
      audit.status ≠ .rejected).map SelfServeTopUpAudit.declaredMoney).sum)

/-- `validateSelfServeTopUpMoneyTx`. -/
def validateSelfServeTopUpMoney (loc : Location) (settings : PaymentSettings)
    (store : Store) (userId now : Int) (declaredMoney : ℚ) : Except SubscriptionError Unit :=
  let single := settings.selfServeTopUpSingleMaxAmount
  let daily := settings.selfServeTopUpDailyMaxAmount
  if userId ≤ 0 then .error .invalidUserId
  else if declaredMoney ≤ 0 then .error .paymentNotPositive
  else if single ≤ 0 ∨ daily ≤ 0 then .error .selfServeLimitsUnset
  else if daily < single then .error .dailyLimitBelowSingle
  else if declaredMoney > single then .error (.singleLimitExceeded single)
  else if selfServeDailyUsedMoney loc store userId now + declaredMoney > daily then
    .error (.dailyLimitExceeded daily)
  else .ok ()

def selfServeResolveAuditTransactionNo (settings : PaymentSettings)
    (paymentMethod transactionNo generated : String) : Except SubscriptionError String :=
  let trimmed := Text.trimSpace transactionNo
  if paymentMethod = wechatSelfServe ∧ settings.selfServeWechatPayAutoTransactionNo then
    .ok generated
  else if trimmed = "" then .error .transactionNoMissing
  else if trimmed.utf8ByteSize < 6 ∨ trimmed.utf8ByteSize > 128 then
    .error .transactionNoLength
  else .ok trimmed

/-- The part of `PurchaseSubscriptionWithSelfServe` after its checks. -/
def createSelfServe (loc : Location) (codec : PayloadCodec) (store : Store)
    (plan : SubscriptionPlan) (purchase : SelfServePurchase)
    (paymentMethod transactionNo : String) (money : ℚ) : Except SubscriptionError Store :=
  if (store.audits.find? transactionNo).isSome then .error .transactionNoUsed
  else if (store.users.find? purchase.userId).isNone then .error .recordNotFound
  else
    match createPaid loc codec store plan
        { tradeNo := purchase.tradeNo
          userId := purchase.userId
          planId := plan.id
          money := money
          paymentMethod := paymentMethod
          paymentProvider := .selfServe
          providerPayload := "transaction_no=" ++ transactionNo } purchase.now with
    | .error error => .error error
    | .ok store =>
      match store.audits.insert?
          { transactionNo := transactionNo
            tradeNo := purchase.tradeNo
            userId := purchase.userId
            paymentMethod := paymentMethod
            declaredMoney := money
            createTime := purchase.now } with
      | none => .error .duplicateKey
      | some audits => .ok { store with audits := audits }

def purchaseSubscriptionWithSelfServe (loc : Location) (codec : PayloadCodec)
    (settings : PaymentSettings) (store : Store) (purchase : SelfServePurchase) :
    Except SubscriptionError Store :=
  if purchase.userId ≤ 0 ∨ purchase.planId ≤ 0 then .error .invalidUserOrPlanId
  else
    match normalizeSelfServePaymentMethod purchase.paymentMethod with
    | none => .error .paymentMethodMismatch
    | some paymentMethod =>
      let declaredMoney := Decimal.round 2 purchase.declaredMoney
      if declaredMoney ≤ 0 then .error .paymentNotPositive
      else if settings.selfServeTopUpUnitPrice ≤ 0 then .error .unitPriceInvalid
      else
        match store.getSubscriptionPlanById purchase.planId with
        | .error error => .error error
        | .ok plan =>
          let money := Decimal.roundCeil 2
            (plan.priceAmount * settings.selfServeTopUpUnitPrice)
          if !plan.enabled then .error .planDisabled
          else if plan.priceAmount < 1 / 100 then .error .priceTooLow
          else if declaredMoney ≠ money then .error (.declaredMoneyWrong money)
          else
            match validateSelfServeTopUpMoney loc settings store purchase.userId
                purchase.now declaredMoney with
            | .error error => .error error
            | .ok () =>
              match selfServeResolveAuditTransactionNo settings paymentMethod
                  purchase.transactionNo purchase.generatedTransactionNo with
              | .error error => .error error
              | .ok transactionNo =>
                createSelfServe loc codec store plan purchase paymentMethod
                  transactionNo money

/-! ## All ways to buy -/

/-- What stays fixed while the shop runs. -/
structure Shop where
  loc : Location
  codec : PayloadCodec
  settings : PaymentSettings

/-- A shop without JSON payloads in which one unit of money buys one unit of quota. -/
def plainShop : Shop where
  loc := ⟨0⟩
  codec := ⟨fun _ => none, fun _ _ => none⟩
  settings := ⟨1, 1, 100, 100, false⟩

/-- The operations on orders and the purchases. -/
inductive PurchaseOp where
  | insert (order : SubscriptionOrder) (now : Int)
  | complete (completion : Completion)
  | expire (tradeNo : String) (expectedPaymentProvider : Option PaymentProvider)
      (now : Int)
  | balance (userId planId : Int) (tradeNo : String) (now : Int)
  | selfServe (purchase : SelfServePurchase)
  | adminBind (userId planId now : Int)

/-- The clock at which an operation runs. -/
def PurchaseOp.now : PurchaseOp → Int
  | .insert _ now => now
  | .complete completion => completion.now
  | .expire _ _ now => now
  | .balance _ _ _ now => now
  | .selfServe purchase => purchase.now
  | .adminBind _ _ now => now

/-- The user and plan for which an operation creates a subscription, if it succeeds. -/
def PurchaseOp.buys (store : Store) : PurchaseOp → Option (Int × Int)
  | .insert _ _ => none
  | .complete completion =>
    ((store.orders.find? completion.tradeNo).filter SubscriptionOrder.completable).map
      fun order => (order.userId, order.planId)
  | .expire _ _ _ => none
  | .balance userId planId _ _ => some (userId, planId)
  | .selfServe purchase => some (purchase.userId, purchase.planId)
  | .adminBind userId planId _ => some (userId, planId)

/-- The store an operation commits, if it does. -/
def PurchaseOp.commit (shop : Shop) (store : Store) :
    PurchaseOp → Except SubscriptionError Store
  | .insert order now => insertSubscriptionOrder store order now
  | .complete completion => completeSubscriptionOrder shop.loc shop.codec store completion
  | .expire tradeNo expectedPaymentProvider now =>
    expireSubscriptionOrder store tradeNo expectedPaymentProvider now
  | .balance userId planId tradeNo now =>
    purchaseSubscriptionWithBalance shop.loc shop.codec shop.settings store userId
      planId tradeNo now
  | .selfServe purchase =>
    purchaseSubscriptionWithSelfServe shop.loc shop.codec shop.settings store purchase
  | .adminBind userId planId now => adminBindSubscription shop.loc store userId planId now

/-- One operation; a failing transaction is rolled back. -/
def purchaseStep (shop : Shop) (store : Store) (op : PurchaseOp) : Store :=
  match op.commit shop store with
  | .ok next => next
  | .error _ => store

end StuHelper.Subscription
