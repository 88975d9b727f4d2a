import StuHelper.Referral.InviterReward

/-!
# Setting a refund target again

The sync of a subscription order sets the refund target of its commissions and, when the
order is fully refunded, takes the inviter's reward back.  Doing either a second time, from
what the first time has left, changes nothing.
-/

namespace StuHelper.Referral

open Lib Subscription List

/-! ## Commissions -/

namespace ReferralCommission

variable (row : ReferralCommission) (amount money : ℚ)

def atTarget : ReferralCommission :=
  { row with
    refundedCommissionQuota := referralCommissionRefundQuotaTarget row.commissionQuota
      (clampAmount amount money) money
    refundedRechargeAmount :=
      if 0 < Decimal.round 2 row.rechargeAmount ∧
          Decimal.round 2 row.rechargeAmount < clampAmount amount money then
        Decimal.round 2 row.rechargeAmount
      else clampAmount amount money }

end ReferralCommission

theorem clampAmount_clampAmount {amount money : ℚ} (positive : 0 < money) :
    clampAmount (clampAmount amount money) money = clampAmount amount money := by
  apply clampAmount_of_mem
  · simp only [clampAmount]
    split_ifs <;> linarith
  · simp only [clampAmount]
    split_ifs <;> linarith

def ReferralCommission.takenBack (row : ReferralCommission) : Int :=
  let refunded := if row.refundedCommissionQuota < 0 then 0 else row.refundedCommissionQuota
  if row.commissionQuota < refunded then row.commissionQuota else refunded

/-- The inviter's balance moves by what the target changes. -/
def payBack (referrals : Referrals) (row : ReferralCommission) (amount money : ℚ) : Referrals :=
  let delta := (row.atTarget amount money).refundedCommissionQuota - row.takenBack
  if delta ≠ 0 ∧ 0 < row.inviterId then referrals.addAff row.inviterId (-delta) else referrals

section Apply

variable {referrals : Referrals} {row : ReferralCommission} {amount money : ℚ}

theorem commissions_payBack :
    (payBack referrals row amount money).commissions = referrals.commissions := by
  simp only [payBack]
  split <;> rfl

theorem apply_eq (positive : 0 < money) :
    applyReferralCommissionRefundTarget referrals row (clampAmount amount money) money =
      { payBack referrals row amount money with
        commissions := referrals.commissions.save (row.atTarget amount money) } := by
  rw [← @commissions_payBack referrals row amount money]
  simp only [applyReferralCommissionRefundTarget, if_neg (not_not.mpr positive),
    clampAmount_clampAmount positive]
  rfl

end Apply

/-- The reward columns of a user, which commissions do not touch. -/
def rewardColumns (user : Affiliate) : Int × Int × Bool × Bool :=
  (user.inviterId, user.inviterRewardQuota, user.inviterRewardUnlocked,
    user.inviterRewardUnlockedByPayment)

def Referrals.reward (referrals : Referrals) (userId : Int) : Option (Int × Int × Bool × Bool) :=
  (referrals.users.find? userId).map rewardColumns

/-! ## All commissions of an order -/

section SetTarget

variable {referrals : Referrals} {sourceType : CommissionSource} {sourceId : String}
  {amount money : ℚ}

theorem mem_foldl_apply (positive : 0 < money) (commissions : List ReferralCommission)
    (referrals : Referrals) {row : ReferralCommission}
    (member : row ∈ (commissions.foldl (fun referrals commission =>
      applyReferralCommissionRefundTarget referrals commission (clampAmount amount money) money)
      referrals).commissions.rows) :
    (∃ commission ∈ commissions, row = commission.atTarget amount money) ∨
      (row ∈ referrals.commissions.rows ∧
        ∀ commission ∈ commissions, row.key ≠ commission.key) := by
  induction commissions generalizing referrals with
  | nil => exact .inr ⟨member, by simp⟩
  | cons commission commissions ih =>
    rcases ih _ member with ⟨later, laterMember, rfl⟩ | ⟨kept, others⟩
    · exact .inl ⟨later, mem_cons_of_mem _ laterMember, rfl⟩
    simp only [apply_eq positive, Table.mem_save] at kept
    rcases kept with ⟨rfl, -⟩ | ⟨old, other⟩
    · exact .inl ⟨commission, mem_cons_self, rfl⟩
    · refine .inr ⟨old, ?_⟩
      intro any anyMember
      rcases mem_cons.mp anyMember with rfl | later
      · exact other
      · exact others any later

/-- The commissions of an order are at a target, and none of them is negative. -/
def AtTarget (referrals : Referrals) (sourceType : CommissionSource) (sourceId : String)
    (amount money : ℚ) : Prop :=
  ∀ row ∈ referrals.commissions.rows, row.isOf sourceType sourceId →
    0 ≤ row.commissionQuota ∧ row.atTarget amount money = row

theorem setTarget_atTarget
    (earned : ∀ row ∈ referrals.commissions.rows, row.isOf sourceType sourceId →
      0 ≤ row.commissionQuota) (positive : 0 < money) :
    AtTarget (setReferralCommissionRefundTarget referrals sourceType sourceId amount money)
      sourceType sourceId amount money := by
  intro row member own
  rw [setReferralCommissionRefundTarget, if_neg (not_not.mpr positive)] at member
  rcases mem_foldl_apply positive _ _ member with ⟨commission, listed, rfl⟩ | ⟨old, others⟩
  · obtain ⟨stored, ofOrder⟩ := mem_filter.mp listed
    exact ⟨earned commission stored ofOrder, rfl⟩
  · exact absurd rfl (others row (mem_filter.mpr ⟨old, own⟩))

theorem setTarget_of_atTarget (reached : AtTarget referrals sourceType sourceId amount money) :
    setReferralCommissionRefundTarget referrals sourceType sourceId amount money =
      referrals := by
  rw [setReferralCommissionRefundTarget]
  split
  · rfl
  rename_i positive
  refine foldlRecOn (motive := (· = referrals)) _ _ rfl ?_
  rintro _ rfl row listed
  obtain ⟨member, own⟩ := mem_filter.mp listed
  obtain ⟨earned, atTarget⟩ := reached row member own
  have inside : 0 ≤ row.refundedCommissionQuota ∧
      row.refundedCommissionQuota ≤ row.commissionQuota := by
    rw [← atTarget]
    rcases eq_or_lt_of_le earned with none | some
    · simp [ReferralCommission.atTarget, referralCommissionRefundQuotaTarget, ← none]
    · exact refundQuotaTarget_bounds some _ _
  have taken : row.takenBack = row.refundedCommissionQuota := by
    simp only [ReferralCommission.takenBack, if_neg (not_lt.mpr inside.1),
      if_neg (not_lt.mpr inside.2)]
  rw [apply_eq (not_not.mp positive), atTarget, Table.save_eq_self member]
  simp [payBack, atTarget, taken]

end SetTarget

/-! ## The reward -/

/-- The reward of the user can be taken back, as far as the reward columns say. -/
def Reversible (userId : Int) (columns : Int × Int × Bool × Bool) : Prop :=
  0 < columns.1 ∧ columns.1 ≠ userId ∧ columns.2.2.1 = true ∧ columns.2.2.2 = true ∧ 0 < columns.2.1

variable {store : Store} {referrals : Referrals} {userId : Int}

/-- Nothing is taken back from a user whose reward is not reversible or who has paid. -/
theorem reverse_eq_self (settled : ∀ columns, 0 < userId → referrals.reward userId = some columns →
      Reversible userId columns → inviteeHasEffectivePayment store userId) :
    reverseInviterRewardForFullRefund store referrals userId = (false, referrals) := by
  rw [reverseInviterRewardForFullRefund]
  split
  · rfl
  rename_i positive
  split
  · rfl
  rename_i user found
  have id : user.id = userId := Table.find?_key found
  split
  · rfl
  rename_i guard
  simp only [not_or, Bool.not_eq_true, Bool.not_eq_false', not_le, id] at guard
  rw [settled (rewardColumns user) (not_le.mp positive)
    (by rw [Referrals.reward, found]; rfl) guard]
  rfl

theorem reverse_settles (positive : 0 < userId) {columns : Int × Int × Bool × Bool}
    (left : (reverseInviterRewardForFullRefund store referrals userId).2.reward userId =
      some columns) (reversible : Reversible userId columns) :
    inviteeHasEffectivePayment store userId := by
  rw [reverseInviterRewardForFullRefund, if_neg positive.not_ge] at left
  cases found : referrals.users.find? userId with
  | none => simp [found, Referrals.reward] at left
  | some user =>
    have id : user.id = userId := Table.find?_key found
    have own : referrals.reward userId = some (rewardColumns user) := by
      rw [Referrals.reward, found]
      rfl
    simp only [found] at left
    split at left
    next guard =>
      cases own.symm.trans left
      obtain ⟨inviter, other, unlocked, byPayment, quota⟩ := reversible
      simp only [rewardColumns] at inviter other unlocked byPayment quota
      simp [id, unlocked, byPayment, inviter.not_ge, quota.not_ge, other] at guard
    rename_i guard
    split at left
    next paid => exact paid
    · -- the reward was taken back just now
      have other : userId ≠ user.inviterId := by
        intro same
        exact guard (.inr (.inl (same.symm.trans id.symm)))
      have kept : (referrals.addAff user.inviterId (-user.inviterRewardQuota)).users.find?
          userId = some user := by
        rw [Referrals.addAff, find?_updateUser_other _ _ other]
        exact found
      rw [id, Referrals.reward, find?_setUnlocked kept, Option.map_some, Option.some.injEq] at left
      subst left
      exact absurd reversible.2.2.1 Bool.false_ne_true

end StuHelper.Referral
