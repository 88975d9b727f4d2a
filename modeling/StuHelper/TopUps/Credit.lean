import StuHelper.Lib.Decimal
import StuHelper.Subscription.Rows

/-!
# Completing a top-up

A pending top-up is completed by the callback of its payment provider or by an
administrator, and each of these functions works the credited quota out again: from the
amount in units, from the amount in quota, or from the money.  `topUpCreditedQuota` is
the figure that refunds are computed from later.

Money and quota are exact.  Only the completion of a Stripe order adds a number to the
quota column that it has not truncated; what the integer column keeps of such a sum is
the database's matter and a parameter (`CreditSettings.column`).
-/

namespace StuHelper.TopUps

open Lib Subscription

/-! ## Kinds of top-ups -/

def adminTopUpPaymentMethods : List String := ["admin_add", "管理员增加", "管理员充值"]

def isAdminTopUpPaymentMethod (paymentMethod : String) : Bool :=
  adminTopUpPaymentMethods.contains (Text.trimSpace paymentMethod)

def isAdminTopUpRecord (topUp : TopUp) : Bool :=
  topUp.paymentProvider = .admin || isAdminTopUpPaymentMethod topUp.paymentMethod

def isSelfServeTopUpRecord (topUp : TopUp) : Bool :=
  topUp.paymentProvider = .selfServe || topUp.paymentMethod = "alipay_self_serve" ||
    topUp.paymentMethod = "wxpay_self_serve"

/-- The quota for an amount in units or for money, truncated. -/
def truncatedQuota (quotaPerUnit units : ℚ) : Int :=
  Decimal.intPart (units * quotaPerUnit)

/-- The quota of an order that is not an administrator's top-up. -/
def providerQuota (quotaPerUnit : ℚ) (topUp : TopUp) : Int :=
  match topUp.paymentProvider with
  | .creem => topUp.amount
  | .selfServe => topUp.amount
  | .stripe => truncatedQuota quotaPerUnit topUp.money
  | _ => truncatedQuota quotaPerUnit topUp.amount

def topUpCreditedQuota (quotaPerUnit : ℚ) (topUp : TopUp) : Int :=
  if isAdminTopUpRecord topUp then topUp.amount else providerQuota quotaPerUnit topUp

/-- `TopUp.PaidMoney`. -/
def paidMoney (topUp : TopUp) : ℚ :=
  Decimal.round 2 (Decimal.round 2 topUp.money + max (Decimal.round 2 topUp.fee) 0)

/-! ## Completion -/

/-- Why a completion fails.  The callbacks hide the cause behind `rechargeFailed`. -/
inductive TopUpError where
  | tradeNoMissing | outRequestNoMissing
  | topUpNotFound | recordNotFound | paymentMethodMismatch | statusInvalid
  | invalidQuota | paidMoneyMismatch | rechargeFailed
  | refundAmountNotPositive | refundQuotaNotPositive
  | notRefundable (reason : String)
  | exceedsCurrentlyRefundable | exceedsRefundable
  | invalidRefundQuota | auditNotApproved | balanceTooLow
  | nothingLeft | exceedsRefundableQuota
  | duplicateKey | storeFailure | chargedQuotaInvalid
  | ratioInvalid | moneyTooLow
  | subscription (error : SubscriptionError)
  deriving DecidableEq, Repr

/-- The server's share in a completion. -/
structure CreditSettings where
  quotaPerUnit : ℚ
  /-- What the integer column keeps of a sum. -/
  column : ℚ → Int

/-- A completion that commits; `credited` is `none` when the order was complete before. -/
structure Completed where
  store : Store
  credited : Option ℚ

/-- The order that a callback completes and the circumstances of the call. -/
structure Completion where
  tradeNo : String
  now : Int
  /-- The bookkeeping of referral commissions or of the inviter's reward fails. -/
  bookkeepingFails : Bool := false

def creditUser (settings : CreditSettings) (store : Store) (userId : Int) (quota : ℚ) : Store :=
  { store with
    users := store.users.update
      (fun user => if user.id = userId then
        { user with quota := settings.column (user.quota + quota) } else user)
      (by intro user; split <;> rfl) }

/-- The row of a completed order. -/
def succeed (topUp : TopUp) (paymentMethod : String) (now : Int) : TopUp :=
  { topUp with status := .success, completeTime := now, paymentMethod := paymentMethod }

/-- The writes of a completion. -/
def credit (settings : CreditSettings) (store : Store) (call : Completion) (topUp : TopUp)
    (paymentMethod : String) (quota : ℚ) : Except TopUpError Completed :=
  if call.bookkeepingFails then .error .storeFailure
  else .ok
    { store := creditUser settings
        { store with topUps := store.topUps.save (succeed topUp paymentMethod call.now) }
        topUp.userId quota
      credited := some quota }

/-- The writes of a completion that refuses a quota that is not positive. -/
def creditPositive (settings : CreditSettings) (store : Store) (call : Completion)
    (topUp : TopUp) (paymentMethod : String) (quota : Int) : Except TopUpError Completed :=
  if quota ≤ 0 then .error .invalidQuota
  else credit settings store call topUp paymentMethod quota

def completeEpayTopUp (settings : CreditSettings) (store : Store) (call : Completion)
    (actualPaymentMethod : String) : Except TopUpError Completed :=
  if call.tradeNo = "" then .error .tradeNoMissing
  else
    match store.topUps.find? call.tradeNo with
    | none => .error .topUpNotFound
    | some topUp =>
      if topUp.paymentProvider ≠ .epay then .error .paymentMethodMismatch
      else if topUp.status = .success then .ok { store := store, credited := none }
      else if topUp.status ≠ .pending then .error .statusInvalid
      else
        creditPositive settings store call topUp
          (if actualPaymentMethod ≠ "" then actualPaymentMethod
            else topUp.paymentMethod)
          (truncatedQuota settings.quotaPerUnit topUp.amount)

/-- The answer of a callback, which does not say why it failed. -/
def hideCause {α : Type} : Except TopUpError α → Except TopUpError α
  | .ok value => .ok value
  | .error _ => .error .rechargeFailed

/-- `Recharge`, the Stripe callback.  The quota is neither truncated nor checked. -/
def recharge (settings : CreditSettings) (store : Store) (call : Completion) :
    Except TopUpError Completed :=
  if call.tradeNo = "" then .error .tradeNoMissing
  else hideCause <|
    match store.topUps.find? call.tradeNo with
    | none => .error .topUpNotFound
    | some topUp =>
      if topUp.paymentProvider ≠ .stripe then .error .paymentMethodMismatch
      else if topUp.status ≠ .pending then .error .statusInvalid
      else
        credit settings store call topUp topUp.paymentMethod
          (topUp.money * settings.quotaPerUnit)

/-- `RechargeCreem`, whose amount is the quota.  A customer email makes it look the user
up. -/
def rechargeCreem (settings : CreditSettings) (store : Store) (call : Completion)
    (customerEmail : String) : Except TopUpError Completed :=
  if call.tradeNo = "" then .error .tradeNoMissing
  else hideCause <|
    match store.topUps.find? call.tradeNo with
    | none => .error .topUpNotFound
    | some topUp =>
      if topUp.paymentProvider ≠ .creem then .error .paymentMethodMismatch
      else if topUp.status ≠ .pending then .error .statusInvalid
      else if customerEmail ≠ "" ∧ store.users.find? topUp.userId = none then
        .error .recordNotFound
      else credit settings store call topUp topUp.paymentMethod topUp.amount

/-- The body that the two Waffo callbacks share. -/
def rechargeByAmount (provider : PaymentProvider) (settings : CreditSettings)
    (store : Store) (call : Completion) : Except TopUpError Completed :=
  if call.tradeNo = "" then .error .tradeNoMissing
  else hideCause <|
    match store.topUps.find? call.tradeNo with
    | none => .error .topUpNotFound
    | some topUp =>
      if topUp.paymentProvider ≠ provider then .error .paymentMethodMismatch
      else if topUp.status = .success then .ok { store := store, credited := none }
      else if topUp.status ≠ .pending then .error .statusInvalid
      else
        creditPositive settings store call topUp topUp.paymentMethod
          (truncatedQuota settings.quotaPerUnit topUp.amount)

def rechargeWaffo := rechargeByAmount .waffo

def rechargeWaffoPancake := rechargeByAmount .waffoPancake

def completable (topUp : TopUp) : Bool :=
  topUp.status = .pending ||
    (topUp.status = .expired && topUp.paymentProvider.isOfficial)

/-- `RechargeOfficialPayment`.  An unset provider expects nothing. -/
def rechargeOfficialPayment (settings : CreditSettings) (store : Store)
    (call : Completion) (expectedPaymentProvider : PaymentProvider)
    (actualPaymentMethod : String) (paid : Option ℚ) : Except TopUpError Completed :=
  if call.tradeNo = "" then .error .tradeNoMissing
  else hideCause <|
    match store.topUps.find? call.tradeNo with
    | none => .error .topUpNotFound
    | some topUp =>
      if expectedPaymentProvider ≠ .unset ∧ topUp.paymentProvider ≠ expectedPaymentProvider then
        .error .paymentMethodMismatch
      else if topUp.status = .success ∨ topUp.status = .partialRefunded ∨
          topUp.status = .refunded then .ok { store := store, credited := none }
      else if !completable topUp then .error .statusInvalid
      else if paid.any fun money =>
          Decimal.round 2 (paidMoney topUp) ≠ Decimal.round 2 money then
        .error .paidMoneyMismatch
      else
        creditPositive settings store call topUp
          (if actualPaymentMethod ≠ "" then actualPaymentMethod
            else topUp.paymentMethod)
          (truncatedQuota settings.quotaPerUnit topUp.amount)

/-- The quota of `ManualCompleteTopUp`: the money of a Stripe order and the amount of
every other order count in units. -/
def manualQuota (quotaPerUnit : ℚ) (topUp : TopUp) : Int :=
  if topUp.paymentProvider = .stripe then truncatedQuota quotaPerUnit topUp.money
  else truncatedQuota quotaPerUnit topUp.amount

def manualCompleteTopUp (settings : CreditSettings) (store : Store) (call : Completion) :
    Except TopUpError Completed :=
  if call.tradeNo = "" then .error .tradeNoMissing
  else
    match store.topUps.find? call.tradeNo with
    | none => .error .topUpNotFound
    | some topUp =>
      if topUp.status = .success then .ok { store := store, credited := none }
      else if !completable topUp then .error .statusInvalid
      else
        creditPositive settings store call topUp topUp.paymentMethod
          (manualQuota settings.quotaPerUnit topUp)

/-- The functions that complete an order. -/
inductive Path where
  | epay (actualPaymentMethod : String)
  | stripe
  | creem (customerEmail : String)
  | waffo
  | waffoPancake
  | official (expectedPaymentProvider : PaymentProvider) (actualPaymentMethod : String)
      (paid : Option ℚ)
  | manual

def Path.complete (settings : CreditSettings) (store : Store) (call : Completion) :
    Path → Except TopUpError Completed
  | .epay method => completeEpayTopUp settings store call method
  | .stripe => recharge settings store call
  | .creem email => rechargeCreem settings store call email
  | .waffo => rechargeWaffo settings store call
  | .waffoPancake => rechargeWaffoPancake settings store call
  | .official provider method paid =>
    rechargeOfficialPayment settings store call provider method paid
  | .manual => manualCompleteTopUp settings store call

/-- The provider whose orders a path is for; an administrator completes any order. -/
def Path.servesProvider (provider : PaymentProvider) : Path → Bool
  | .epay _ => provider = .epay
  | .stripe => provider = .stripe
  | .creem _ => provider = .creem
  | .waffo => provider = .waffo
  | .waffoPancake => provider = .waffoPancake
  | .official _ _ _ => provider.isOfficial
  | .manual => true

end StuHelper.TopUps
