import StuHelper.Lib.Query
import StuHelper.Lib.Table
import StuHelper.Subscription.Plan

/-!
# The tables behind subscriptions

One store holds the rows that the subscription code reads and writes.  Request
ids and trade numbers are unique, as their database indexes are, and subscription
ids are handed out once.  A transaction that fails leaves the store as it was, so
an operation is a function into `Except SubscriptionError`.
-/

namespace StuHelper.Subscription

open Lib

/-! ## Rows -/

/-- The columns of `User` that billing touches. -/
structure User where
  id : Int
  group : String := "default"
  quota : Int := 0
  deriving DecidableEq, Repr

/-- `UserSubscription.Status`. -/
inductive SubscriptionStatus where
  | active | expired | cancelled
  deriving DecidableEq, Repr

/-- `UserSubscription.Source`. -/
inductive Source where
  | order | admin
  deriving DecidableEq, Repr

/-- `UserSubscription`, without its update stamp. -/
structure UserSubscription where
  id : Int
  userId : Int
  planId : Int
  amountTotal : Int := 0
  amountUsed : Int := 0
  startTime : Int
  endTime : Int
  status : SubscriptionStatus := .active
  source : Source := .order
  lastResetTime : Int := 0
  nextResetTime : Int := 0
  upgradeGroup : String := ""
  prevUserGroup : String := ""
  downgradeGroup : String := ""
  allowWalletOverflow : Option Bool := none
  createdAt : Int := 0
  deriving DecidableEq, Repr

/-- `SubscriptionPreConsumeRecord.Status`. -/
inductive RecordStatus where
  | consumed | refunded
  deriving DecidableEq, Repr

/-- `SubscriptionPreConsumeRecord`. -/
structure PreConsumeRecord where
  requestId : String
  userId : Int
  userSubscriptionId : Int
  preConsumed : Int
  status : RecordStatus := .consumed
  deriving DecidableEq, Repr

/-- Status of an order and of the top-up row that mirrors it. -/
inductive PaymentStatus where
  | pending | success | failed | expired | partialRefunded | refunded
  deriving DecidableEq, Repr

/-- `PaymentProvider`; `unset` is the empty column. -/
inductive PaymentProvider where
  | unset | epay | stripe | creem | waffo | waffoPancake
  | alipayOfficial | wechatPayOfficial | selfServe | balance | admin
  | other (name : String)
  deriving DecidableEq, Repr

/-- `IsOfficialPaymentProvider`. -/
def PaymentProvider.isOfficial (provider : PaymentProvider) : Bool :=
  provider = .alipayOfficial || provider = .wechatPayOfficial

structure SubscriptionOrder where
  tradeNo : String
  userId : Int
  planId : Int
  money : ℚ := 0
  fee : ℚ := 0
  paymentMethod : String := ""
  paymentProvider : PaymentProvider := .unset
  status : PaymentStatus := .pending
  createTime : Int := 0
  completeTime : Int := 0
  providerPayload : String := ""
  deriving DecidableEq, Repr

/-- The stored columns of `TopUp`. -/
structure TopUp where
  tradeNo : String
  userId : Int
  amount : Int := 0
  money : ℚ := 0
  fee : ℚ := 0
  refundedMoney : ℚ := 0
  refundedQuota : Int := 0
  paymentMethod : String := ""
  paymentProvider : PaymentProvider := .unset
  createTime : Int := 0
  completeTime : Int := 0
  status : PaymentStatus := .pending
  deriving DecidableEq, Repr

/-- `SelfServeTopUpAudit.Status`. -/
inductive AuditStatus where
  | pending | approved | rejected
  deriving DecidableEq, Repr

/-- `SelfServeTopUpAudit`, without what the reviewer leaves. -/
structure SelfServeTopUpAudit where
  transactionNo : String
  tradeNo : String
  userId : Int
  paymentMethod : String
  declaredMoney : ℚ
  creditedQuota : Int := 0
  status : AuditStatus := .pending
  createTime : Int := 0
  deriving DecidableEq, Repr

/-- The database. -/
structure Store where
  users : Table User.id := Table.empty
  plans : Table SubscriptionPlan.id := Table.empty
  subs : Serial UserSubscription.id := Serial.empty
  records : Table PreConsumeRecord.requestId := Table.empty
  orders : Table SubscriptionOrder.tradeNo := Table.empty
  topUps : Table TopUp.tradeNo := Table.empty
  audits : Table SelfServeTopUpAudit.transactionNo := Table.empty

def Store.addQuota (store : Store) (userId delta : Int) : Store :=
  { store with
    users := store.users.update
      (fun user => if user.id = userId then { user with quota := user.quota + delta } else user)
      (by intro user; split <;> rfl) }

/-! ## Errors -/

/-- Why an operation fails.  `recordNotFound` is the answer of the database and
`resetNeverEnds` stands for a call that does not come back. -/
inductive SubscriptionError where
  | recordNotFound
  | invalidPlanId | invalidPlan | invalidUserId | invalidUserOrPlanId
  | invalidUserSubscriptionId | invalidSubscriptionStart | invalidOrder
  | requestIdEmpty | amountNotPositive | tradeNoEmpty
  | alreadyRefunded | noActiveSubscription
  | noSubscriptionAllowsModel (modelName : String)
  | quotaInsufficient (need : Int)
  | usedExceedsTotal (used total : Int)
  | duration (error : DurationError)
  | orderNotFound | orderStatusInvalid | purchaseLimit | paymentMethodMismatch
  | duplicateKey
  | planDisabled | priceNegative | balancePayNotAllowed | quotaUnitInvalid
  | balanceInsufficient | priceTooLow | paymentNotPositive | unitPriceInvalid
  | declaredMoneyWrong (expected : ℚ)
  | selfServeLimitsUnset | dailyLimitBelowSingle | singleLimitExceeded (limit : ℚ)
  | dailyLimitExceeded (limit : ℚ)
  | transactionNoMissing | transactionNoLength | transactionNoUsed
  | refundExceedsPayment
  | storeFailure
  | resetNeverEnds
  deriving DecidableEq, Repr

/-! ## Lookups shared by the operations -/

namespace Store

/-- `getSubscriptionPlanByIdTx`, the plan cache being coherent with the table. -/
def getSubscriptionPlanById (store : Store) (id : Int) :
    Except SubscriptionError SubscriptionPlan :=
  if id ≤ 0 then .error .invalidPlanId
  else
    match store.plans.find? id with
    | none => .error .recordNotFound
    | some plan => .ok plan.normalizeDefaults

def saveSub (store : Store) (sub : UserSubscription) : Store :=
  { store with subs := store.subs.save sub }

def saveRecord (store : Store) (record : PreConsumeRecord) : Store :=
  { store with records := store.records.save record }

end Store

def UserSubscription.runsAt (sub : UserSubscription) (now : Int) : Bool :=
  sub.status = .active && sub.startTime ≤ now && sub.endTime > now

end StuHelper.Subscription
