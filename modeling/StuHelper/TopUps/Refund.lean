import StuHelper.Subscription.Lifecycle
import StuHelper.TopUps.Credit

/-!
# Refunding a top-up

A refund is booked before the provider answers: the row of the refund is created, the
refunded money and quota of the top-up grow and the user loses the quota.  A refund that
fails later is taken back, whatever its state was.  Official orders are refunded through
their provider, self-serve orders by hand or by rejecting their audit, and an
administrator's top-up by quota instead of money.

A top-up is identified by its trade number, as its refund rows are linked to it.  The
preview that bounds a refund is computed here for a wallet top-up; for the order of a
subscription it is a parameter (`RefundSettings.subscriptionPreview`).  Only the failure
of the referral bookkeeping is modelled, which touches no column that a refund reads.
-/

namespace StuHelper.TopUps

open Lib Subscription

/-! ## Rows -/

/-- `TopUpRefund.Status`. -/
inductive RefundRowStatus where
  | pending | success | failed
  deriving DecidableEq, Repr

/-- `TopUpRefund`, without the texts that it keeps. -/
structure TopUpRefund where
  outRequestNo : String
  tradeNo : String
  userId : Int
  refundAmount : ℚ
  refundQuota : Int
  status : RefundRowStatus := .pending
  deriving DecidableEq, Repr

/-- The database of the refund ledger. -/
structure Books where
  store : Store
  refunds : Table TopUpRefund.outRequestNo := Table.empty

/-- `OfficialPaymentRefundPreview`, as far as a refund reads it. -/
structure RefundPreview where
  refundable : Bool := false
  remainingRefundAmount : ℚ := 0
  remainingRefundQuota : Int := 0
  maxRefundAmount : ℚ := 0
  maxRefundQuota : Int := 0
  reason : String := ""
  deriving DecidableEq, Repr

/-- The server's share in a refund. -/
structure RefundSettings where
  quotaPerUnit : ℚ
  codec : PayloadCodec
  /-- `calculateSubscriptionPaymentRefundPreview`, from the order money and the
  remaining money. -/
  subscriptionPreview : Store → TopUp → SubscriptionOrder → ℚ → ℚ → Except TopUpError RefundPreview

/-! ## Amounts -/

def calculateOfficialRefundQuota (totalQuota alreadyRefundedQuota : Int)
    (orderMoney refundAmount remainingMoney : ℚ) : Int :=
  let remainingQuota := totalQuota - alreadyRefundedQuota
  if remainingQuota ≤ 0 then 0
  else if ¬ refundAmount < remainingMoney then remainingQuota
  else if orderMoney ≤ 0 then 0
  else
    let share := Decimal.intPart
      (Decimal.round 0 (Decimal.div (totalQuota * refundAmount) orderMoney))
    let refundQuota := if share ≤ 0 then 1 else share
    if refundQuota > remainingQuota then remainingQuota else refundQuota

def refundAmountForQuota (refundQuota totalQuota : Int) (orderMoney remainingMoney : ℚ) : ℚ :=
  if refundQuota ≤ 0 ∨ totalQuota ≤ 0 ∨ orderMoney ≤ 0 then 0
  else
    let share := Decimal.roundFloor 2 (Decimal.div (orderMoney * refundQuota) totalQuota)
    let amount := if share > remainingMoney then remainingMoney else share
    if amount < 0 then 0 else amount

/-- The order money and the refunded money of a top-up, in cents. -/
def orderMoney (topUp : TopUp) : ℚ := Decimal.round 2 topUp.money

@[inherit_doc orderMoney]
def refundedMoney (topUp : TopUp) : ℚ := Decimal.round 2 topUp.refundedMoney

/-- `isSelfServeTopUpAuditApprovedTx`. -/
def isSelfServeTopUpAuditApproved (store : Store) (tradeNo : String) : Except TopUpError Bool :=
  match store.audits.rows.find? fun audit => audit.tradeNo = tradeNo with
  | none => .error .recordNotFound
  | some audit => .ok (audit.status = .approved)

def calculateBalanceTopUpRefundPreview (quotaPerUnit : ℚ) (store : Store) (topUp : TopUp)
    (remainingMoney : ℚ) (remainingQuota : Int) : Except TopUpError RefundPreview :=
  match store.users.find? topUp.userId with
  | none => .error .recordNotFound
  | some user =>
    let maxQuota := min remainingQuota (max user.quota 0)
    let maxAmount := refundAmountForQuota maxQuota
      (topUpCreditedQuota quotaPerUnit topUp) (orderMoney topUp) remainingMoney
    let refundable := maxQuota > 0 && Decimal.round 2 maxAmount > 0
    .ok
      { refundable := refundable
        remainingRefundAmount := remainingMoney
        remainingRefundQuota := remainingQuota
        maxRefundAmount := maxAmount
        maxRefundQuota := maxQuota
        reason := if refundable then "" else "用户当前余额不足以扣回该订单未使用部分" }

/-- The order is a subscription that was paid from the wallet. -/
def isBalanceSubscription (topUp : TopUp) (order : SubscriptionOrder) : Bool :=
  (topUp.paymentProvider = .balance || topUp.paymentMethod = "balance") &&
    (order.paymentProvider = .balance || order.paymentMethod = "balance")

/-- `calculateOfficialPaymentRefundPreviewFromTopUp`. -/
def calculateOfficialPaymentRefundPreview (settings : RefundSettings) (store : Store)
    (topUp : TopUp) : Except TopUpError RefundPreview :=
  if topUp.status ≠ .success ∧ topUp.status ≠ .partialRefunded then
    .ok { reason := "订单状态不可退款" }
  else
    let order := store.orders.find? topUp.tradeNo
    if !topUp.paymentProvider.isOfficial && !isSelfServeTopUpRecord topUp &&
        !order.any (isBalanceSubscription topUp) then
      .ok { reason := "仅官方支付、自助支付或余额订阅订单支持退款申请" }
    else
      match if isSelfServeTopUpRecord topUp then
          isSelfServeTopUpAuditApproved store topUp.tradeNo else .ok true with
      | .error error => .error error
      | .ok false => .ok { reason := "自助支付订单审核通过后才能退款" }
      | .ok true =>
        let remainingMoney := orderMoney topUp - refundedMoney topUp
        if ¬ 0 < remainingMoney then .ok { reason := "订单已无可退金额" }
        else
          let remainingQuota :=
            max (topUpCreditedQuota settings.quotaPerUnit topUp - topUp.refundedQuota) 0
          match order with
          | some order => settings.subscriptionPreview store topUp order
              (orderMoney topUp) remainingMoney
          | none => calculateBalanceTopUpRefundPreview settings.quotaPerUnit store topUp
              remainingMoney remainingQuota

/-- The check of a refund against the preview, unless a full refund is allowed. -/
def withinPreview (settings : RefundSettings) (store : Store) (topUp : TopUp)
    (allowFullRefund : Bool) (refundAmount : ℚ) : Except TopUpError Unit :=
  if allowFullRefund then .ok ()
  else
    match calculateOfficialPaymentRefundPreview settings store topUp with
    | .error error => .error error
    | .ok preview =>
      if !preview.refundable then
        .error (.notRefundable
          (if preview.reason ≠ "" then preview.reason else "该订单当前不可退款"))
      else if refundAmount > Decimal.round 2 preview.maxRefundAmount then
        .error .exceedsCurrentlyRefundable
      else .ok ()

/-! ## Booking -/

def Books.addQuota (books : Books) (userId delta : Int) : Books :=
  { books with store := books.store.addQuota userId delta }

def Books.saveTopUp (books : Books) (topUp : TopUp) : Books :=
  { books with store := { books.store with topUps := books.store.topUps.save topUp } }

def Books.createRefund (books : Books) (refund : TopUpRefund) : Except TopUpError Books :=
  match books.refunds.insert? refund with
  | none => .error .duplicateKey
  | some refunds => .ok { books with refunds := refunds }

def refundRow (topUp : TopUp) (outRequestNo : String) (amount : ℚ) (quota : Int)
    (status : RefundRowStatus) : TopUpRefund :=
  { outRequestNo := outRequestNo, tradeNo := topUp.tradeNo, userId := topUp.userId
    refundAmount := amount, refundQuota := quota, status := status }

def bookRefund (topUp : TopUp) (newRefundedMoney : ℚ) (quota : Int) : TopUp :=
  { topUp with
    refundedMoney := newRefundedMoney
    refundedQuota := topUp.refundedQuota + quota
    status := if newRefundedMoney < orderMoney topUp then .partialRefunded else .refunded }

def refundOpen (topUp : TopUp) : Bool :=
  topUp.status = .success || topUp.status = .partialRefunded

/-- The quota that a refund in money takes back; a subscription gives none back. -/
def refundQuotaFor (settings : RefundSettings) (store : Store) (topUp : TopUp)
    (refundAmount : ℚ) : Int :=
  if (store.orders.find? topUp.tradeNo).isSome then 0
  else calculateOfficialRefundQuota (topUpCreditedQuota settings.quotaPerUnit topUp)
    topUp.refundedQuota (orderMoney topUp) refundAmount
    (orderMoney topUp - refundedMoney topUp)

/-! ## Official refunds -/

/-- `OfficialPaymentRefundCreateParams`; an unset provider and an empty method expect
nothing. -/
structure OfficialRefund where
  tradeNo : String
  paymentProvider : PaymentProvider := .unset
  paymentMethod : String := ""
  refundAmount : ℚ
  outRequestNo : String
  allowFullRefund : Bool := false
  bookkeepingFails : Bool := false

def OfficialRefund.book (params : OfficialRefund) (books : Books) (topUp : TopUp)
    (refundAmount : ℚ) (refundQuota : Int) : Except TopUpError Books :=
  let subscription := (books.store.orders.find? topUp.tradeNo).isSome
  if refundQuota ≤ 0 ∧ !subscription then .error .invalidRefundQuota
  else
    match books.createRefund (refundRow topUp (Text.trimSpace params.outRequestNo)
        refundAmount refundQuota .pending) with
    | .error error => .error error
    | .ok created =>
      let booked := created.saveTopUp
        (bookRefund topUp (refundedMoney topUp + refundAmount) refundQuota)
      if subscription then .ok booked
      else if params.bookkeepingFails then .error .storeFailure
      else .ok (booked.addQuota topUp.userId (-refundQuota))

def createOfficialPaymentRefund (settings : RefundSettings) (books : Books)
    (params : OfficialRefund) : Except TopUpError Books :=
  let refundAmount := Decimal.round 2 params.refundAmount
  if Text.trimSpace params.tradeNo = "" then .error .tradeNoMissing
  else if Text.trimSpace params.outRequestNo = "" then .error .outRequestNoMissing
  else if ¬ 0 < refundAmount then .error .refundAmountNotPositive
  else
    match books.store.topUps.find? params.tradeNo with
    | none => .error .topUpNotFound
    | some topUp =>
      if params.paymentProvider ≠ .unset ∧ topUp.paymentProvider ≠ params.paymentProvider then
        .error .paymentMethodMismatch
      else if params.paymentMethod ≠ "" ∧ topUp.paymentMethod ≠ params.paymentMethod then
        .error .paymentMethodMismatch
      else if !refundOpen topUp then .error .statusInvalid
      else
        match withinPreview settings books.store topUp params.allowFullRefund
            refundAmount with
        | .error error => .error error
        | .ok () =>
          if orderMoney topUp - refundedMoney topUp < refundAmount then
            .error .exceedsRefundable
          else params.book books topUp refundAmount
            (refundQuotaFor settings books.store topUp refundAmount)

def markTopUpRefundSuccess (books : Books) (outRequestNo : String) : Except TopUpError Books :=
  if Text.trimSpace outRequestNo = "" then .error .outRequestNoMissing
  else
    match books.refunds.find? outRequestNo with
    | none => .error .recordNotFound
    | some refund =>
      match refund.status with
      | .success => .ok books
      | .failed => .error .statusInvalid
      | .pending => .ok
          { books with refunds := books.refunds.save { refund with status := .success } }

def unbookRefund (topUp : TopUp) (refund : TopUpRefund) : TopUp :=
  let money := max (Decimal.round 2 (topUp.refundedMoney - refund.refundAmount)) 0
  let quota := max (topUp.refundedQuota - refund.refundQuota) 0
  { topUp with
    refundedMoney := money
    refundedQuota := quota
    status := if quota = 0 ∧ money = 0 then .success else .partialRefunded }

/-- `MarkTopUpRefundFailed`.  A refund that has already succeeded can fail, too. -/
def markTopUpRefundFailed (books : Books) (outRequestNo : String)
    (bookkeepingFails : Bool) : Except TopUpError Books :=
  if Text.trimSpace outRequestNo = "" then .error .outRequestNoMissing
  else
    match books.refunds.find? outRequestNo with
    | none => .error .recordNotFound
    | some refund =>
      if refund.status = .failed then .ok books
      else
        match books.store.topUps.find? refund.tradeNo with
        | none => .error .recordNotFound
        | some topUp =>
          if bookkeepingFails then .error .storeFailure
          else
            let failed := { books with
              refunds := books.refunds.save { refund with status := .failed } }
            let failed := failed.saveTopUp (unbookRefund topUp refund)
            if (books.store.orders.find? topUp.tradeNo).isSome then .ok failed
            else .ok (failed.addQuota refund.userId refund.refundQuota)

/-! ## Refunds by hand -/

/-- Take quota from a user who has enough of it. -/
def Books.deductQuota (books : Books) (userId quota : Int) : Except TopUpError Books :=
  match books.store.users.find? userId with
  | none => .error .balanceTooLow
  | some user =>
    if user.quota < quota then .error .balanceTooLow
    else .ok (books.addQuota userId (-quota))

/-- Bring the subscription of a refunded order up to date. -/
def Books.syncSubscription (settings : RefundSettings) (books : Books) (tradeNo : String)
    (fullRefund : Bool) (now : Int) (bookkeepingFails : Bool) : Except TopUpError Books :=
  match syncSubscriptionOrderRefundState settings.codec books.store
      { tradeNo := tradeNo, expectedPaymentProvider := some .selfServe,
        fullRefund := fullRefund, now := now, bookkeepingFails := bookkeepingFails } with
  | .error error => .error (.subscription error)
  | .ok store => .ok { books with store := store }

/-- A call of `CreateSelfServeManualRefund`, with the number that it generates. -/
structure SelfServeRefund where
  tradeNo : String
  refundAmount : ℚ
  allowFullRefund : Bool := false
  outRequestNo : String
  now : Int
  bookkeepingFails : Bool := false

def SelfServeRefund.deduct (call : SelfServeRefund) (books : Books) (topUp : TopUp)
    (refundQuota : Int) : Except TopUpError Books :=
  if (books.store.orders.find? topUp.tradeNo).isSome then .ok books
  else if refundQuota ≤ 0 then .error .invalidRefundQuota
  else
    match books.deductQuota topUp.userId refundQuota with
    | .error error => .error error
    | .ok books => if call.bookkeepingFails then .error .storeFailure else .ok books

def SelfServeRefund.book (settings : RefundSettings) (books : Books)
    (call : SelfServeRefund) (topUp : TopUp) (refundAmount : ℚ) (refundQuota : Int) :
    Except TopUpError Books :=
  match call.deduct books topUp refundQuota with
  | .error error => .error error
  | .ok deducted =>
    match deducted.createRefund
        (refundRow topUp call.outRequestNo refundAmount refundQuota .success) with
    | .error error => .error error
    | .ok created =>
      let booked := created.saveTopUp (bookRefund topUp
        (Decimal.round 2 (refundedMoney topUp + refundAmount)) refundQuota)
      if (books.store.orders.find? topUp.tradeNo).isSome then
        booked.syncSubscription settings topUp.tradeNo call.allowFullRefund call.now
          call.bookkeepingFails
      else .ok booked

def createSelfServeManualRefund (settings : RefundSettings) (books : Books)
    (call : SelfServeRefund) : Except TopUpError Books :=
  let tradeNo := Text.trimSpace call.tradeNo
  let refundAmount := Decimal.round 2 call.refundAmount
  if tradeNo = "" then .error .tradeNoMissing
  else if ¬ 0 < refundAmount then .error .refundAmountNotPositive
  else
    match books.store.topUps.find? tradeNo with
    | none => .error .topUpNotFound
    | some topUp =>
      if !isSelfServeTopUpRecord topUp then .error .paymentMethodMismatch
      else
        match isSelfServeTopUpAuditApproved books.store topUp.tradeNo with
        | .error error => .error error
        | .ok false => .error .auditNotApproved
        | .ok true =>
          if !refundOpen topUp then .error .statusInvalid
          else
            match withinPreview settings books.store topUp call.allowFullRefund
                refundAmount with
            | .error error => .error error
            | .ok () =>
              if refundAmount > orderMoney topUp - refundedMoney topUp then
                .error .exceedsRefundable
              else call.book settings books topUp refundAmount
                (refundQuotaFor settings books.store topUp refundAmount)

/-- A call of `RejectSelfServeTopUp`, with the number that it generates. -/
structure Rejection where
  tradeNo : String
  outRequestNo : String
  now : Int
  bookkeepingFails : Bool := false

def rejectTopUp (topUp : TopUp) (amount : ℚ) (quota : Int) : TopUp :=
  { topUp with
    refundedQuota := topUp.refundedQuota + quota
    refundedMoney := Decimal.round 2 (topUp.refundedMoney + amount)
    status := .refunded }

/-- The writes of a rejection. -/
def Rejection.book (settings : RefundSettings) (books : Books) (call : Rejection)
    (topUp : TopUp) (audit : SelfServeTopUpAudit) : Except TopUpError Books :=
  let subscription := (books.store.orders.find? topUp.tradeNo).isSome
  let quota := if subscription then 0
    else max (audit.creditedQuota - topUp.refundedQuota) 0
  let amount := max (Decimal.round 2 (topUp.money - topUp.refundedMoney)) 0
  let deducted := if quota > 0 then books.addQuota topUp.userId (-quota) else books
  match deducted.createRefund (refundRow topUp call.outRequestNo amount quota .success) with
  | .error error => .error error
  | .ok created =>
    let booked := created.saveTopUp (rejectTopUp topUp amount quota)
    let booked := { booked with
      store := { booked.store with
        audits := booked.store.audits.save { audit with status := .rejected } } }
    if subscription then
      booked.syncSubscription settings topUp.tradeNo true call.now call.bookkeepingFails
    else .ok booked

def rejectSelfServeTopUp (settings : RefundSettings) (books : Books) (call : Rejection) :
    Except TopUpError Books :=
  let tradeNo := Text.trimSpace call.tradeNo
  if tradeNo = "" then .error .tradeNoMissing
  else
    match books.store.topUps.find? tradeNo with
    | none => .error .topUpNotFound
    | some topUp =>
      if !isSelfServeTopUpRecord topUp then .error .paymentMethodMismatch
      else
        match books.store.audits.rows.find? fun audit => audit.tradeNo = topUp.tradeNo with
        | none => .error .recordNotFound
        | some audit =>
          match audit.status with
          | .rejected => .ok books
          | .approved => .error .statusInvalid
          | .pending => call.book settings books topUp audit

/-! ## Refunds by quota -/

/-- A call of `RefundAdminBalanceTopUp`, with the number that it generates. -/
structure AdminRefund where
  tradeNo : String
  refundQuota : Int
  outRequestNo : String

def adminRefundAmount (topUp : TopUp) (totalQuota refundQuota : Int) : ℚ :=
  let remainingMoney := max (orderMoney topUp - refundedMoney topUp) 0
  if ¬ 0 < orderMoney topUp then 0
  else if refundQuota ≥ totalQuota - topUp.refundedQuota then remainingMoney
  else Decimal.round 2
    (refundAmountForQuota refundQuota totalQuota (orderMoney topUp) remainingMoney)

def bookAdminRefund (topUp : TopUp) (totalQuota : Int) (amount : ℚ) (quota : Int) : TopUp :=
  { topUp with
    refundedQuota := topUp.refundedQuota + quota
    refundedMoney := min (Decimal.round 2 (refundedMoney topUp + amount)) topUp.money
    status := if topUp.refundedQuota + quota ≥ totalQuota then .refunded
      else .partialRefunded }

def refundAdminBalanceTopUp (settings : RefundSettings) (books : Books)
    (call : AdminRefund) : Except TopUpError Books :=
  let tradeNo := Text.trimSpace call.tradeNo
  if tradeNo = "" then .error .tradeNoMissing
  else if call.refundQuota ≤ 0 then .error .refundQuotaNotPositive
  else
    match books.store.topUps.find? tradeNo with
    | none => .error .topUpNotFound
    | some topUp =>
      let totalQuota := topUpCreditedQuota settings.quotaPerUnit topUp
      let remainingQuota := totalQuota - topUp.refundedQuota
      let amount := adminRefundAmount topUp totalQuota call.refundQuota
      if !isAdminTopUpRecord topUp then .error .paymentMethodMismatch
      else if !refundOpen topUp then .error .statusInvalid
      else if remainingQuota ≤ 0 then .error .nothingLeft
      else if call.refundQuota > remainingQuota then .error .exceedsRefundableQuota
      else
        match books.deductQuota topUp.userId call.refundQuota with
        | .error error => .error error
        | .ok deducted =>
          match deducted.createRefund
              (refundRow topUp call.outRequestNo amount call.refundQuota .success) with
          | .error error => .error error
          | .ok created => .ok (created.saveTopUp
              (bookAdminRefund topUp totalQuota amount call.refundQuota))

/-! ## Runs -/

/-- The operations of the refund ledger. -/
inductive RefundOp where
  | official (params : OfficialRefund)
  | markSuccess (outRequestNo : String)
  | markFailed (outRequestNo : String) (bookkeepingFails : Bool)
  | selfServe (call : SelfServeRefund)
  | reject (call : Rejection)
  | admin (call : AdminRefund)

/-- The books an operation commits, if it does. -/
def RefundOp.commit (settings : RefundSettings) (books : Books) :
    RefundOp → Except TopUpError Books
  | .official params => createOfficialPaymentRefund settings books params
  | .markSuccess outRequestNo => markTopUpRefundSuccess books outRequestNo
  | .markFailed outRequestNo bookkeepingFails =>
    markTopUpRefundFailed books outRequestNo bookkeepingFails
  | .selfServe call => createSelfServeManualRefund settings books call
  | .reject call => rejectSelfServeTopUp settings books call
  | .admin call => refundAdminBalanceTopUp settings books call

/-- One operation; a failing transaction is rolled back. -/
def refundStep (settings : RefundSettings) (books : Books) (op : RefundOp) : Books :=
  match op.commit settings books with
  | .ok next => next
  | .error _ => books

end StuHelper.TopUps
