import StuHelper.TopUps.Refund

/-!
# Self-serve orders

A user pays by a printed code, declares the money and is served at once: a top-up credits
the wallet, a purchase starts the subscription.  An administrator compares the declaration
with the account statement later, corrects it while the audit is pending, and approves or
rejects it.
-/

namespace StuHelper.TopUps

open Lib Subscription

/-- The options that self-serve orders read. -/
structure SelfServeSettings where
  loc : Location
  payments : PaymentSettings
  /-- `GetTopupGroupRatio`. -/
  topupGroupRatio : String → ℚ

/-- One unit of quota for a unit of money, up to 100.00 a day. -/
def selfServePlain : SelfServeSettings where
  loc := ⟨0⟩
  payments := ⟨1, 1, 100, 100, false⟩
  topupGroupRatio := fun _ => 1

/-- `calculateSelfServeTopUpQuotaTx`. -/
def calculateSelfServeTopUpQuota (settings : SelfServeSettings) (store : Store) (userId : Int)
    (declaredMoney : ℚ) : Except TopUpError Int :=
  if declaredMoney ≤ 0 then .error (.subscription .paymentNotPositive)
  else if settings.payments.selfServeTopUpUnitPrice ≤ 0 then
    .error (.subscription .unitPriceInvalid)
  else
    let ratio := settings.topupGroupRatio (store.getUserGroupById userId)
    let topupGroupRatio := if ratio ≤ 0 then 1 else ratio
    if settings.payments.quotaPerUnit ≤ 0 then .error (.subscription .quotaUnitInvalid)
    else
      let denominator := settings.payments.selfServeTopUpUnitPrice * topupGroupRatio
      if denominator ≤ 0 then .error .ratioInvalid
      else
        let quota := Decimal.intPart
          (Decimal.div declaredMoney denominator * settings.payments.quotaPerUnit)
        if quota ≤ 0 then .error .moneyTooLow else .ok quota

/-! ## Creation -/

/-- `SelfServeTopUpCreateParams`, with the numbers that are drawn. -/
structure SelfServeCreate where
  userId : Int
  paymentMethod : String
  declaredMoney : ℚ
  transactionNo : String
  tradeNo : String
  generatedTransactionNo : String
  now : Int

/-- The transaction of `CreateSelfServeTopUp` after its check of the limits. -/
def SelfServeCreate.insert (settings : SelfServeSettings) (books : Books)
    (call : SelfServeCreate) (paymentMethod : String) (money : ℚ) (quotaToAdd : Int) :
    Except TopUpError Books :=
  match selfServeResolveAuditTransactionNo settings.payments paymentMethod call.transactionNo
      call.generatedTransactionNo with
  | .error error => .error (.subscription error)
  | .ok transactionNo =>
    if (books.store.audits.find? transactionNo).isSome then
      .error (.subscription .transactionNoUsed)
    else
      match books.store.topUps.insert?
          { tradeNo := call.tradeNo, userId := call.userId, amount := quotaToAdd, money := money
            paymentMethod := paymentMethod, paymentProvider := .selfServe
            createTime := call.now, completeTime := call.now, status := .success },
        books.store.audits.insert?
          { transactionNo := transactionNo, tradeNo := call.tradeNo, userId := call.userId
            paymentMethod := paymentMethod, declaredMoney := money
            creditedQuota := quotaToAdd, createTime := call.now } with
      | some topUps, some audits =>
        let served := { books with
          store := { books.store with topUps := topUps, audits := audits } }
        .ok (served.addQuota call.userId quotaToAdd)
      | _, _ => .error .duplicateKey

/-- `CreateSelfServeTopUp`.  The limits are checked before the transaction and in it; in one
step the second check finds what the first has found. -/
def createSelfServeTopUp (settings : SelfServeSettings) (books : Books) (call : SelfServeCreate) :
    Except TopUpError Books :=
  match normalizeSelfServePaymentMethod call.paymentMethod with
  | none => .error .paymentMethodMismatch
  | some paymentMethod =>
    let money := Decimal.round 2 call.declaredMoney
    match validateSelfServeTopUpMoney settings.loc settings.payments books.store call.userId
        call.now money with
    | .error error => .error (.subscription error)
    | .ok () =>
      match calculateSelfServeTopUpQuota settings books.store call.userId money with
      | .error error => .error error
      | .ok quotaToAdd => call.insert settings books paymentMethod money quotaToAdd

/-- What `CreateSelfServeTopUp` does up to its check of the limits, at this time: the payment
method, the money and the quota. -/
def SelfServeCreate.check (settings : SelfServeSettings) (store : Store) (call : SelfServeCreate)
    (clock : Int) : Except TopUpError (String × ℚ × Int) :=
  match normalizeSelfServePaymentMethod call.paymentMethod with
  | none => .error .paymentMethodMismatch
  | some paymentMethod =>
    let money := Decimal.round 2 call.declaredMoney
    match validateSelfServeTopUpMoney settings.loc settings.payments store call.userId clock
        money with
    | .error error => .error (.subscription error)
    | .ok () =>
      match calculateSelfServeTopUpQuota settings store call.userId money with
      | .error error => .error error
      | .ok quotaToAdd => .ok (paymentMethod, money, quotaToAdd)

/-! ## Purchases -/

/-- The part of `PurchaseSubscriptionWithSelfServe` up to the check of the limits: the plan,
the payment method and the money. -/
def checkSelfServePurchase (settings : SelfServeSettings) (store : Store)
    (purchase : SelfServePurchase) : Except SubscriptionError (SubscriptionPlan × String × ℚ) :=
  if purchase.userId ≤ 0 ∨ purchase.planId ≤ 0 then .error .invalidUserOrPlanId
  else
    match normalizeSelfServePaymentMethod purchase.paymentMethod with
    | none => .error .paymentMethodMismatch
    | some paymentMethod =>
      let declaredMoney := Decimal.round 2 purchase.declaredMoney
      if declaredMoney ≤ 0 then .error .paymentNotPositive
      else if settings.payments.selfServeTopUpUnitPrice ≤ 0 then .error .unitPriceInvalid
      else
        match store.getSubscriptionPlanById purchase.planId with
        | .error error => .error error
        | .ok plan =>
          let money := Decimal.roundCeil 2
            (plan.priceAmount * settings.payments.selfServeTopUpUnitPrice)
          if !plan.enabled then .error .planDisabled
          else if plan.priceAmount < 1 / 100 then .error .priceTooLow
          else if declaredMoney ≠ money then .error (.declaredMoneyWrong money)
          else
            match validateSelfServeTopUpMoney settings.loc settings.payments store
                purchase.userId purchase.now declaredMoney with
            | .error error => .error error
            | .ok () => .ok (plan, paymentMethod, money)

/-- The rest of `PurchaseSubscriptionWithSelfServe`. -/
def insertSelfServePurchase (settings : SelfServeSettings) (codec : PayloadCodec) (store : Store)
    (purchase : SelfServePurchase) (plan : SubscriptionPlan) (paymentMethod : String) (money : ℚ) :
    Except SubscriptionError Store :=
  match selfServeResolveAuditTransactionNo settings.payments paymentMethod purchase.transactionNo
      purchase.generatedTransactionNo with
  | .error error => .error error
  | .ok transactionNo =>
    createSelfServe settings.loc codec store plan purchase paymentMethod transactionNo money

theorem purchaseSubscriptionWithSelfServe_eq (settings : SelfServeSettings) (codec : PayloadCodec)
    (store : Store) (purchase : SelfServePurchase) :
    purchaseSubscriptionWithSelfServe settings.loc codec settings.payments store purchase =
      match checkSelfServePurchase settings store purchase with
      | .error error => .error error
      | .ok (plan, paymentMethod, money) =>
        insertSelfServePurchase settings codec store purchase plan paymentMethod money := by
  simp only [purchaseSubscriptionWithSelfServe, checkSelfServePurchase]
  split
  · rfl
  cases normalizeSelfServePaymentMethod purchase.paymentMethod with
  | none => rfl
  | some =>
    dsimp only
    split
    · rfl
    split
    · rfl
    cases store.getSubscriptionPlanById purchase.planId with
    | error => rfl
    | ok =>
      dsimp only
      split
      · rfl
      split
      · rfl
      split
      · rfl
      cases validateSelfServeTopUpMoney settings.loc settings.payments store purchase.userId
          purchase.now (Decimal.round 2 purchase.declaredMoney) with
      | error | ok => rfl

theorem checkSelfServePurchase_ok {settings : SelfServeSettings} {store : Store}
    {purchase : SelfServePurchase} {plan : SubscriptionPlan} {paymentMethod : String} {money : ℚ}
    (done : checkSelfServePurchase settings store purchase = .ok (plan, paymentMethod, money)) :
    normalizeSelfServePaymentMethod purchase.paymentMethod = some paymentMethod ∧
      money = Decimal.round 2 purchase.declaredMoney ∧
      validateSelfServeTopUpMoney settings.loc settings.payments store purchase.userId
        purchase.now money = .ok () := by
  simp only [checkSelfServePurchase] at done
  split at done
  · cases done
  split at done
  · cases done
  rename_i method normal
  iterate 3
    split at done
    · cases done
  simp only [check_ok] at done
  obtain ⟨-, -, same, done⟩ := done
  split at done
  · cases done
  next admitted =>
    cases done
    rw [not_not.mp same] at admitted
    exact ⟨normal, (not_not.mp same).symm, admitted⟩

/-! ## Correction -/

/-- `SelfServeTopUpEditParams`, with the number that is drawn. -/
structure SelfServeEdit where
  tradeNo : String
  declaredMoney : ℚ
  transactionNo : String
  generatedTransactionNo : String
  now : Int

/-- The transaction number of a corrected audit.  A number that the server has drawn is
kept. -/
def SelfServeEdit.resolve (settings : PaymentSettings) (call : SelfServeEdit) (topUp : TopUp)
    (audit : SelfServeTopUpAudit) : Except TopUpError String :=
  let transactionNo := Text.trimSpace audit.transactionNo
  match normalizeSelfServePaymentMethod topUp.paymentMethod with
  | none => .error .paymentMethodMismatch
  | some paymentMethod =>
    if paymentMethod = wechatSelfServe ∧ settings.selfServeWechatPayAutoTransactionNo then
      .ok (if transactionNo = "" then call.generatedTransactionNo else transactionNo)
    else
      match selfServeResolveAuditTransactionNo settings paymentMethod call.transactionNo
          call.generatedTransactionNo with
      | .error error => .error (.subscription error)
      | .ok transactionNo => .ok transactionNo

/-- The writes of a correction: the quota moves by the difference. -/
def SelfServeEdit.write (books : Books) (topUp : TopUp) (audit : SelfServeTopUpAudit)
    (transactionNo : String) (money : ℚ) (newQuota : Int) : Except TopUpError Books :=
  match (books.store.audits.discard audit.transactionNo).insert?
      { audit with
        transactionNo := transactionNo, declaredMoney := money, creditedQuota := newQuota } with
  | none => .error .duplicateKey
  | some audits =>
    let delta := newQuota - audit.creditedQuota
    let moved := if delta ≠ 0 then books.addQuota topUp.userId delta else books
    let saved := moved.saveTopUp { topUp with amount := newQuota, money := money }
    .ok { saved with store := { saved.store with audits := audits } }

/-- `UpdateSelfServeTopUp`.  The limits are checked without the audit itself. -/
def updateSelfServeTopUp (settings : SelfServeSettings) (books : Books) (call : SelfServeEdit) :
    Except TopUpError Books :=
  let tradeNo := Text.trimSpace call.tradeNo
  let money := Decimal.round 2 call.declaredMoney
  if tradeNo = "" then .error .tradeNoMissing
  else
    match books.store.topUps.find? tradeNo with
    | none => .error .topUpNotFound
    | some topUp =>
      if !isSelfServeTopUpRecord topUp then .error .paymentMethodMismatch
      else
        match books.store.audits.rows.find? fun audit => audit.tradeNo = topUp.tradeNo with
        | none => .error .recordNotFound
        | some audit =>
          if audit.status ≠ .pending then .error .statusInvalid
          else
            match validateSelfServeTopUpMoney settings.loc settings.payments
                { books.store with
                  audits := books.store.audits.discard audit.transactionNo }
                topUp.userId call.now money with
            | .error error => .error (.subscription error)
            | .ok () =>
              match call.resolve settings.payments topUp audit with
              | .error error => .error error
              | .ok transactionNo =>
                if transactionNo ≠ audit.transactionNo ∧
                    (books.store.audits.find? transactionNo).isSome then
                  .error (.subscription .transactionNoUsed)
                else
                  match calculateSelfServeTopUpQuota settings books.store topUp.userId
                      money with
                  | .error error => .error error
                  | .ok newQuota => SelfServeEdit.write books topUp audit transactionNo
                      money newQuota

end StuHelper.TopUps
