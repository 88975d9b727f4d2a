import StuHelper.Lib.Decimal
import StuHelper.Subscription.Rows

/-!
# Referral commissions and the inviter's reward

A user who was invited earns the inviter two things: a commission on each payment and a
one-time reward, granted at registration or by the first payment.  Both are added to the
inviter's `aff_quota` and `aff_history`, and refunds take them back.

Only the referral columns of `User` are kept here.  An order is identified by its trade
number where the source uses the id of its row, and a commission by its unique index.  A
statement of the database that fails rolls the surrounding transaction back, so the
functions below are the ones of a transaction that goes on.
-/

namespace StuHelper.Referral

open Lib Subscription

/-! ## Rows -/

/-- The referral columns of `User`. -/
structure Affiliate where
  id : Int
  inviterId : Int := 0
  affCount : Int := 0
  affQuota : Int := 0
  affHistory : Int := 0
  referralCommissionPercent : Option ℚ := none
  inviterRewardQuota : Int := 0
  inviterRewardUnlocked : Bool := false
  inviterRewardUnlockedByPayment : Bool := false
  deriving DecidableEq, Repr

/-- `ReferralCommission.SourceType`. -/
inductive CommissionSource where
  | topUp | subscription
  deriving DecidableEq, Repr

/-- The unique index of `ReferralCommission`. -/
structure CommissionKey where
  inviteeId : Int
  sourceType : CommissionSource
  sourceId : String
  paymentMethod : String
  deriving DecidableEq, Repr

/-- `ReferralCommission`, identified by its unique index. -/
structure ReferralCommission where
  key : CommissionKey
  inviterId : Int
  rechargeAmount : ℚ
  refundedRechargeAmount : ℚ := 0
  commissionQuota : Int
  refundedCommissionQuota : Int := 0
  rechargeSequence : Int := 0
  commissionRate : ℚ := 0
  deriving DecidableEq, Repr

/-- The referral side of the database. -/
structure Referrals where
  users : Table Affiliate.id := Table.empty
  commissions : Table ReferralCommission.key := Table.empty

/-- The options of the referral programme. -/
structure ReferralSettings where
  referralCommissionEnabled : Bool := true
  referralCommissionPercent : ℚ := 0
  referralCommissionMaxRecharges : Int := 0
  quotaPerUnit : ℚ := 500000
  quotaForInviter : Int := 0
  inviterRewardAfterPaymentEnabled : Bool := false
  deriving DecidableEq, Repr

/-- The commission belongs to this order. -/
def ReferralCommission.isOf (sourceType : CommissionSource) (sourceId : String)
    (commission : ReferralCommission) : Bool :=
  commission.key.sourceType = sourceType && commission.key.sourceId = sourceId

namespace Referrals

def updateUser (referrals : Referrals) (userId : Int) (change : Affiliate → Affiliate)
    (keeps : ∀ user, (change user).id = user.id) : Referrals :=
  { referrals with
    users := referrals.users.update
      (fun user => if user.id = userId then change user else user)
      (by intro user; split <;> simp [keeps]) }

/-- Add to `aff_quota` and `aff_history` of a user. -/
def addAff (referrals : Referrals) (userId delta : Int) : Referrals :=
  referrals.updateUser userId
    (fun user => { user with
      affQuota := user.affQuota + delta, affHistory := user.affHistory + delta })
    fun _ => rfl

/-- Write the two flags of the inviter's reward. -/
def setUnlocked (referrals : Referrals) (userId : Int) (unlocked byPayment : Bool) : Referrals :=
  referrals.updateUser userId
    (fun user => { user with
      inviterRewardUnlocked := unlocked, inviterRewardUnlockedByPayment := byPayment })
    fun _ => rfl

end Referrals

/-! ## Commissions -/

def effectiveReferralCommissionRate (settings : ReferralSettings) (inviter : Affiliate) : ℚ :=
  match inviter.referralCommissionPercent with
  | some rate => if 0 ≤ rate ∧ rate ≤ 100 then rate else settings.referralCommissionPercent
  | none => settings.referralCommissionPercent

def calculateReferralCommissionQuota (settings : ReferralSettings)
    (rechargeAmount rate : ℚ) : Int :=
  if rechargeAmount ≤ 0 ∨ rate ≤ 0 ∨ rate > 100 ∨ settings.quotaPerUnit ≤ 0 then 0
  else Decimal.intPart (Decimal.div (rechargeAmount * settings.quotaPerUnit * rate) 100)

/-- `nextReferralCommissionSequenceTx`. -/
def nextReferralCommissionSequence (referrals : Referrals) (inviteeId : Int) : Int :=
  let own := referrals.commissions.rows.filter fun row => row.key.inviteeId = inviteeId
  let maxSequence := (own.map ReferralCommission.rechargeSequence).foldl max 0
  if 0 < maxSequence then maxSequence + 1 else own.length + 1

structure Payment where
  userId : Int
  rechargeAmount : ℚ
  paymentMethod : String
  sourceType : CommissionSource
  sourceId : String
  deriving DecidableEq, Repr

/-- `CreditReferralCommissionTx`.  An index that refuses the row leaves everything as it
is. -/
def creditReferralCommission (settings : ReferralSettings) (referrals : Referrals)
    (payment : Payment) : Referrals :=
  let paymentMethod := Text.trimSpace payment.paymentMethod
  if !settings.referralCommissionEnabled || payment.rechargeAmount ≤ 0 ||
      paymentMethod = "" then referrals
  else
    match referrals.users.find? payment.userId with
    | none => referrals
    | some invitee =>
      if invitee.inviterId ≤ 0 ∨ invitee.inviterId = invitee.id then referrals
      else
        match referrals.users.find? invitee.inviterId with
        | none => referrals
        | some inviter =>
          let rate := effectiveReferralCommissionRate settings inviter
          let commissionQuota :=
            calculateReferralCommissionQuota settings payment.rechargeAmount rate
          let rechargeSequence := nextReferralCommissionSequence referrals invitee.id
          if commissionQuota ≤ 0 then referrals
          else if 0 < settings.referralCommissionMaxRecharges ∧
              settings.referralCommissionMaxRecharges < rechargeSequence then referrals
          else
            match referrals.commissions.insert?
                { key :=
                    { inviteeId := invitee.id, sourceType := payment.sourceType
                      sourceId := payment.sourceId, paymentMethod := paymentMethod }
                  inviterId := invitee.inviterId
                  rechargeAmount := payment.rechargeAmount
                  commissionQuota := commissionQuota
                  rechargeSequence := rechargeSequence
                  commissionRate := rate } with
            | none => referrals
            | some commissions =>
              { referrals with commissions := commissions }.addAff invitee.inviterId
                commissionQuota

/-! ## The inviter's one-time reward -/

/-- `markInviterRewardUnlockedTx`. -/
def markInviterRewardUnlocked (referrals : Referrals) (userId : Int) (byPayment : Bool) :
    Referrals :=
  if userId ≤ 0 then referrals else referrals.setUnlocked userId true byPayment

/-- `setInviterRewardQuotaTx`. -/
def setInviterRewardQuota (referrals : Referrals) (userId quota : Int) : Referrals :=
  if userId ≤ 0 then referrals
  else referrals.updateUser userId (fun user => { user with inviterRewardQuota := quota })
    fun _ => rfl

/-- `recordUserInvitationTx`; `none` when there is no such inviter. -/
def recordUserInvitation (referrals : Referrals) (inviterId quotaForInviter : Int) :
    Option Referrals :=
  match referrals.users.find? inviterId with
  | none => none
  | some _ =>
    let counted := referrals.updateUser inviterId
      (fun user => { user with affCount := user.affCount + 1 }) fun _ => rfl
    if 0 < quotaForInviter then some (counted.addAff inviterId quotaForInviter)
    else some counted

/-- `FinalizeUserInvitation`, the inviter's side: whether the reward was granted at
registration.  A failing transaction is rolled back. -/
def finalizeUserInvitation (settings : ReferralSettings) (referrals : Referrals)
    (userId inviterId : Int) : Bool × Referrals :=
  if inviterId ≤ 0 then (false, referrals)
  else if settings.inviterRewardAfterPaymentEnabled then
    match recordUserInvitation referrals inviterId 0 with
    | none => (false, referrals)
    | some counted =>
      let waiting := setInviterRewardQuota counted userId settings.quotaForInviter
      if settings.quotaForInviter ≤ 0 then
        (false, markInviterRewardUnlocked waiting userId false)
      else (false, waiting)
  else
    match recordUserInvitation referrals inviterId settings.quotaForInviter with
    | none => (false, referrals)
    | some counted =>
      (0 < settings.quotaForInviter, markInviterRewardUnlocked
          (setInviterRewardQuota counted userId settings.quotaForInviter) userId false)

/-- `creditInviterRewardTx`, with its answer whether the reward was credited. -/
def creditInviterReward (referrals : Referrals) (userId : Int) : Bool × Referrals :=
  if userId ≤ 0 then (false, referrals)
  else
    match referrals.users.find? userId with
    | none => (false, referrals)
    | some invitee =>
      if invitee.inviterId ≤ 0 ∨ invitee.inviterRewardUnlocked then (false, referrals)
      else if invitee.inviterId = invitee.id then (false, referrals)
      else if invitee.inviterRewardQuota ≤ 0 then
        (false, markInviterRewardUnlocked referrals invitee.id false)
      else
        (true, (referrals.setUnlocked invitee.id true true).addAff invitee.inviterId
          invitee.inviterRewardQuota)

/-- `CreditInviteRewardsAfterPaymentTx`. -/
def creditInviteRewardsAfterPayment (settings : ReferralSettings) (referrals : Referrals)
    (payment : Payment) : Bool × Referrals :=
  let (credited, rewarded) := creditInviterReward referrals payment.userId
  (credited, creditReferralCommission settings rewarded payment)

/-- `inviteeHasEffectivePaymentTx`. -/
def inviteeHasEffectivePayment (store : Store) (userId : Int) : Bool :=
  if userId ≤ 0 then false
  else
    (store.topUps.rows.any fun topUp =>
      topUp.userId = userId &&
        (topUp.status = .success || topUp.status = .partialRefunded) &&
        0 < topUp.completeTime) ||
    (store.orders.rows.any fun order =>
      order.userId = userId && order.status = .success && 0 < order.completeTime)

/-- `reverseInviterRewardForFullRefundTx`, and whether it took the reward back. -/
def reverseInviterRewardForFullRefund (store : Store) (referrals : Referrals) (userId : Int) :
    Bool × Referrals :=
  if userId ≤ 0 then (false, referrals)
  else
    match referrals.users.find? userId with
    | none => (false, referrals)
    | some invitee =>
      if invitee.inviterId ≤ 0 ∨ invitee.inviterId = invitee.id ∨
          !invitee.inviterRewardUnlocked ∨ !invitee.inviterRewardUnlockedByPayment ∨
          invitee.inviterRewardQuota ≤ 0 then (false, referrals)
      else if inviteeHasEffectivePayment store userId then (false, referrals)
      else
        (true, (referrals.addAff invitee.inviterId (-invitee.inviterRewardQuota)).setUnlocked
          invitee.id false false)

/-- `restoreInviterRewardForRefundFailureTx`, and whether it credited the reward. -/
def restoreInviterRewardForRefundFailure (store : Store) (referrals : Referrals)
    (userId : Int) : Bool × Referrals :=
  if userId ≤ 0 then (false, referrals)
  else if !inviteeHasEffectivePayment store userId then (false, referrals)
  else creditInviterReward referrals userId

/-! ## Refunds and commissions -/

def referralCommissionRefundQuotaTarget (commissionQuota : Int)
    (refundedAmount orderMoney : ℚ) : Int :=
  if commissionQuota ≤ 0 ∨ ¬ 0 < refundedAmount ∨ ¬ 0 < orderMoney then 0
  else if ¬ refundedAmount < orderMoney then commissionQuota
  else
    let target := Decimal.intPart
      (Decimal.round 0 (Decimal.div (commissionQuota * refundedAmount) orderMoney))
    if target < 0 then 0
    else if commissionQuota < target then commissionQuota
    else target

/-- Both ends of an amount. -/
def clampAmount (amount orderMoney : ℚ) : ℚ :=
  let amount := if amount < 0 then 0 else amount
  if orderMoney < amount then orderMoney else amount

/-- `applyReferralCommissionRefundTargetTx`. -/
def applyReferralCommissionRefundTarget (referrals : Referrals)
    (commission : ReferralCommission) (targetRefundedAmount orderMoney : ℚ) : Referrals :=
  if ¬ 0 < orderMoney then referrals
  else
    let targetRefundedAmount := clampAmount targetRefundedAmount orderMoney
    let currentRefundedQuota :=
      if commission.refundedCommissionQuota < 0 then 0 else commission.refundedCommissionQuota
    let currentRefundedQuota :=
      if commission.commissionQuota < currentRefundedQuota then commission.commissionQuota
      else currentRefundedQuota
    let targetRefundedQuota := referralCommissionRefundQuotaTarget commission.commissionQuota
      targetRefundedAmount orderMoney
    let quotaDelta := targetRefundedQuota - currentRefundedQuota
    let commissionAmount := Decimal.round 2 commission.rechargeAmount
    let recordedRefundedAmount :=
      if 0 < commissionAmount ∧ commissionAmount < targetRefundedAmount then commissionAmount
      else targetRefundedAmount
    let moved :=
      if quotaDelta ≠ 0 ∧ 0 < commission.inviterId then
        referrals.addAff commission.inviterId (-quotaDelta)
      else referrals
    { moved with
      commissions := moved.commissions.save { commission with
        refundedCommissionQuota := targetRefundedQuota
        refundedRechargeAmount := recordedRefundedAmount } }

/-- `reverseReferralCommissionForRefundTx`; a negative amount is a refund that failed. -/
def reverseReferralCommissionForRefund (referrals : Referrals) (sourceType : CommissionSource)
    (sourceId : String) (refundAmount orderMoney : ℚ) : Referrals :=
  if refundAmount = 0 ∨ ¬ 0 < orderMoney then referrals
  else
    (referrals.commissions.rows.filter (ReferralCommission.isOf sourceType sourceId)).foldl
      (fun referrals commission =>
        let currentRefundedAmount := Decimal.round 2 commission.refundedRechargeAmount
        let currentRefundedAmount :=
          if currentRefundedAmount < 0 then 0 else currentRefundedAmount
        let nextRefundedAmount :=
          if refundAmount < 0 then currentRefundedAmount - |refundAmount|
          else currentRefundedAmount + |refundAmount|
        applyReferralCommissionRefundTarget referrals commission
          (clampAmount nextRefundedAmount orderMoney) orderMoney)
      referrals

/-- `setReferralCommissionRefundTargetTx`. -/
def setReferralCommissionRefundTarget (referrals : Referrals) (sourceType : CommissionSource)
    (sourceId : String) (refundedAmount orderMoney : ℚ) : Referrals :=
  if ¬ 0 < orderMoney then referrals
  else
    (referrals.commissions.rows.filter (ReferralCommission.isOf sourceType sourceId)).foldl
      (fun referrals commission =>
        applyReferralCommissionRefundTarget referrals commission
          (clampAmount refundedAmount orderMoney) orderMoney)
      referrals

end StuHelper.Referral
